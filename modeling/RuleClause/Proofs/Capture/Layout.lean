import Mathlib.Data.List.Infix
import RuleClause.Dialect.Template

/-!
# Layouts of iterations

The template of an iteration is fixed text with slots for the operands.  A layout is
such a template with its binders told apart: a query binds a name to the rows of the
array it selects from, and a lambda binds its parameters.  A query binds the name
everywhere but in the array itself, and a lambda binds its parameters in its body.
-/

namespace RuleClause

open Dialect (NamingForm LambdaForm Aggregate Quantity elementName accumulatorName)

/-- The operands of an iteration. -/
inductive Slot where
  /-- The array that the iteration runs over. -/
  | source
  /-- What is computed for each element. -/
  | body
  /-- The value that a reduction starts with. -/
  | initial
deriving DecidableEq, Repr

/-- The number of operands before the one in a slot. -/
def Slot.index : Slot → Nat
  | .source => 0
  | .body => 1
  | .initial => 2

/-- Fixed text with slots for operands, in which queries and lambdas are told apart. -/
inductive Layout where
  /-- Fixed text. -/
  | words (text : String)
  /-- The place of an operand. -/
  | slot (operand : Slot)
  /-- One layout after another. -/
  | append (first second : Layout)
  /-- A query: what it selects, the array whose items it gives a name, and what follows. -/
  | query (naming : NamingForm) (name : String) (selected array rest : Layout)
  /-- A lambda with its parameters. -/
  | lambda (parameters : List String) (body : Layout)
deriving Repr

/-- Where an operand stands in an iteration. -/
inductive Place where
  /-- Outside of queries and lambdas. -/
  | outside
  /-- In the array that a query selects from. -/
  | unnested
  /-- Where the name of the current element is bound anew. -/
  | rebound
deriving DecidableEq, Repr

/-- A place as it is inside of a binder for the given names. -/
def Place.under (names : List String) (place : Place) : Place :=
  if elementName ∈ names then .rebound else place

/-- A place as it is inside of an array that a query selects from. -/
def Place.inArray : Place → Place
  | .rebound => .rebound
  | _ => .unnested

namespace Layout

instance : Append Layout := ⟨append⟩

/-- The text of a layout, with the given texts in its slots. -/
def write (texts : Slot → String) : Layout → String
  | .words text => text
  | .slot operand => texts operand
  | .append first second => first.write texts ++ second.write texts
  | .query naming name selected array rest =>
      "SELECT " ++ selected.write texts ++ " FROM " ++ naming.unnest (array.write texts) name ++
        rest.write texts
  | .lambda [parameter] body => parameter ++ " -> " ++ body.write texts
  | .lambda parameters body =>
      Dialect.parenthesized (Dialect.commas parameters) ++ " -> " ++ body.write texts

/-- The places where an operand stands in a layout that itself stands at a place. -/
def placesAt (operand : Slot) (place : Place) : Layout → List Place
  | .words _ => []
  | .slot other => if other = operand then [place] else []
  | .append first second => first.placesAt operand place ++ second.placesAt operand place
  | .query _ name selected array rest =>
      selected.placesAt operand (place.under [name]) ++
        array.placesAt operand place.inArray ++ rest.placesAt operand (place.under [name])
  | .lambda parameters body => body.placesAt operand (place.under parameters)

/-- The places where an operand stands. -/
def places (layout : Layout) (operand : Slot) : List Place :=
  layout.placesAt operand .outside

/-- Fixed text starts a query or holds a lambda. -/
def mayBind (text : String) : Bool :=
  text.toList.tails.any fun rest =>
    "SELECT".toList.isPrefixOf rest || "->".toList.isPrefixOf rest

/-- All queries and lambdas of a layout are told apart, and none is hidden in fixed text. -/
def isExplicit : Layout → Bool
  | .words text => ! mayBind text
  | .slot _ => true
  | .append first second => first.isExplicit && second.isExplicit
  | .query _ _ selected array rest =>
      selected.isExplicit && array.isExplicit && rest.isExplicit
  | .lambda _ body => body.isExplicit

@[simp]
theorem write_words (texts : Slot → String) (text : String) :
    (words text).write texts = text :=
  rfl

@[simp]
theorem write_slot (texts : Slot → String) (operand : Slot) :
    (slot operand).write texts = texts operand :=
  rfl

@[simp]
theorem write_append (texts : Slot → String) (first second : Layout) :
    (first ++ second).write texts = first.write texts ++ second.write texts :=
  rfl

/-! ## Layouts of the templates -/

/-- Layouts divided by commas. -/
def commas : List Layout → Layout
  | [] => .words ""
  | [single] => single
  | first :: rest => first ++ .words ", " ++ commas rest

/-- A layout in parentheses. -/
def parenthesized (layout : Layout) : Layout :=
  .words "(" ++ layout ++ .words ")"

/-- A function with its arguments. -/
def call (function : String) (arguments : List Layout) : Layout :=
  .words function ++ parenthesized (commas arguments)

@[simp]
theorem write_commas (texts : Slot → String) (layouts : List Layout) :
    (commas layouts).write texts = Dialect.commas (layouts.map (write texts)) := by
  induction layouts with
  | nil => rfl
  | cons first rest inductionHypothesis =>
      cases rest with
      | nil => rfl
      | cons second rest =>
          rw [commas, write_append, write_append, inductionHypothesis, write_words]
          · simp only [Dialect.commas, List.map_cons, String.intercalate_cons_cons]
          · simp

@[simp]
theorem write_parenthesized (texts : Slot → String) (layout : Layout) :
    (parenthesized layout).write texts = Dialect.parenthesized (layout.write texts) :=
  rfl

@[simp]
theorem write_call (texts : Slot → String) (function : String) (arguments : List Layout) :
    (call function arguments).write texts =
      Dialect.call function (arguments.map (write texts)) := by
  simp only [call, write_append, write_parenthesized, write_commas]
  rfl

/-- A query over the elements of the array. -/
def overElements (naming : NamingForm) (selected rest : Layout) : Layout :=
  .query naming elementName selected (.slot .source) rest

/-- A condition on the rows of a query. -/
def filter (condition : Layout) : Layout :=
  .words " WHERE " ++ condition

/-- A function that takes the array and a lambda, with an initial value if there is one. -/
def applied
    (functions : LambdaForm)
    (function : String)
    (parameters : List String)
    (initial : Option Slot) : Layout :=
  let lambda := Layout.lambda parameters (.slot .body)
  let arguments :=
    if functions.arrayFirst then [.slot .source, lambda] else [lambda, .slot .source]
  call function (arguments ++ initial.toList.map .slot)

/-- The layout of what an expression gives for each element. -/
def mapped (dialect : Dialect) : Layout :=
  match dialect.forms.iteration with
  | .subquery naming => call "ARRAY" [overElements naming (.slot .body) (.words "")]
  | .lambda functions => applied functions functions.map [elementName] none

/-- The layout of the elements for which a condition holds. -/
def filtered (dialect : Dialect) : Layout :=
  match dialect.forms.iteration with
  | .subquery naming =>
      call "ARRAY" [overElements naming (.words elementName) (filter (.slot .body))]
  | .lambda functions => applied functions functions.filter [elementName] none

/-- The layout of the running value after the last element. -/
def folded (functions : LambdaForm) : Layout :=
  applied functions functions.fold [accumulatorName, elementName] (some .initial)

/-- The layout of an initial value combined with the values of all elements. -/
def combined : Aggregate → Layout
  | .sum =>
      .slot .initial ++ .words " + " ++ call "COALESCE" [call "SUM" [.slot .body], .words "0"]
  | .max =>
      call "GREATEST" [.slot .initial, call "COALESCE" [call "MAX" [.slot .body], .slot .initial]]
  | .min =>
      call "LEAST" [.slot .initial, call "COALESCE" [call "MIN" [.slot .body], .slot .initial]]

/-- The layout of an aggregate over the elements. -/
def aggregated (naming : NamingForm) (aggregate : Aggregate) : Layout :=
  parenthesized (overElements naming (combined aggregate) (.words ""))

/-- The layout of the existence of a row for which a condition holds. -/
def rowExists (naming : NamingForm) (condition : Layout) : Layout :=
  call "EXISTS " [overElements naming (.words "1") (filter condition)]

/-- The layout of a condition that holds for all, for some or for none of the elements. -/
def quantified (dialect : Dialect) (quantity : Quantity) : Layout :=
  let lambda := Layout.lambda [elementName] (.slot .body)
  match dialect.forms.quantifier, quantity with
  | .rows naming, .all =>
      .words "NOT " ++ rowExists naming (.words "NOT " ++ parenthesized (.slot .body))
  | .rows naming, .some => rowExists naming (.slot .body)
  | .rows naming, .none => .words "NOT " ++ rowExists naming (.slot .body)
  | .lambda forAll _, .all => call forAll [lambda, .slot .source]
  | .lambda _ forSome, .some => call forSome [lambda, .slot .source]
  | .lambda _ forSome, .none => .words "NOT " ++ call forSome [lambda, .slot .source]

/-! ## The templates write the layouts -/

section

variable (texts : Slot → String)

theorem write_overElements (naming : NamingForm) (selected rest : Layout) :
    (overElements naming selected rest).write texts =
      "SELECT " ++ selected.write texts ++ " FROM " ++
        naming.unnest (texts .source) elementName ++ rest.write texts :=
  rfl

theorem write_filter (condition : Layout) :
    (filter condition).write texts = " WHERE " ++ condition.write texts :=
  rfl

theorem write_elementLambda :
    (Layout.lambda [elementName] (.slot .body)).write texts =
      Dialect.elementLambda (texts .body) :=
  rfl

theorem write_foldLambda :
    (Layout.lambda [accumulatorName, elementName] (.slot .body)).write texts =
      Dialect.foldLambda (texts .body) :=
  rfl

theorem write_applied
    (functions : LambdaForm)
    (function : String)
    (parameters : List String)
    (initial : Option Slot) :
    (applied functions function parameters initial).write texts =
      functions.apply function (texts .source)
        ((Layout.lambda parameters (.slot .body)).write texts)
        (initial.map texts) := by
  rw [applied, write_call, LambdaForm.apply]
  cases initial <;> cases functions.arrayFirst <;> simp

theorem write_mapped (dialect : Dialect) :
    (mapped dialect).write texts = dialect.mapped (texts .source) (texts .body) := by
  unfold mapped Dialect.mapped
  cases dialect.forms.iteration with
  | subquery naming =>
      simp [write_overElements, Dialect.call, Dialect.parenthesized, Dialect.commas,
        ← String.append_assoc]
  | lambda functions => rw [write_applied, write_elementLambda, Option.map_none]

theorem write_filtered (dialect : Dialect) :
    (filtered dialect).write texts = dialect.filtered (texts .source) (texts .body) := by
  unfold filtered Dialect.filtered
  cases dialect.forms.iteration with
  | subquery naming =>
      simp [write_overElements, write_filter, Dialect.call, Dialect.parenthesized,
        Dialect.commas, ← String.append_assoc]
  | lambda functions => rw [write_applied, write_elementLambda, Option.map_none]

theorem write_folded (functions : LambdaForm) :
    (folded functions).write texts =
      functions.folded (texts .source) (texts .body) (texts .initial) := by
  rw [folded, write_applied, write_foldLambda]
  rfl

theorem write_aggregated (naming : NamingForm) (aggregate : Aggregate) :
    (aggregated naming aggregate).write texts =
      naming.aggregated aggregate (texts .source) (texts .body) (texts .initial) := by
  cases aggregate <;>
    simp [aggregated, combined, write_overElements, NamingForm.aggregated,
      Dialect.parenthesized, ← String.append_assoc]

theorem write_rowExists (naming : NamingForm) (condition : Layout) :
    (rowExists naming condition).write texts =
      naming.rowExists (texts .source) (condition.write texts) := by
  unfold rowExists NamingForm.rowExists
  simp [write_overElements, write_filter, Dialect.call, Dialect.parenthesized, Dialect.commas,
    ← String.append_assoc]

theorem write_quantified (dialect : Dialect) (quantity : Quantity) :
    (quantified dialect quantity).write texts =
      dialect.quantified quantity (texts .source) (texts .body) := by
  unfold quantified Dialect.quantified
  cases dialect.forms.quantifier with
  | rows naming => cases quantity <;> simp [write_rowExists]
  | lambda forAll forSome => cases quantity <;> simp [write_elementLambda]

end

/-! ## Where the operands stand -/

section

variable (operand : Slot) (place : Place)

@[simp]
theorem placesAt_words (text : String) : (words text).placesAt operand place = [] :=
  rfl

@[simp]
theorem placesAt_slot (other : Slot) :
    (slot other).placesAt operand place = if other = operand then [place] else [] :=
  rfl

@[simp]
theorem placesAt_append (first second : Layout) :
    (first ++ second).placesAt operand place =
      first.placesAt operand place ++ second.placesAt operand place :=
  rfl

@[simp]
theorem placesAt_parenthesized (layout : Layout) :
    (parenthesized layout).placesAt operand place = layout.placesAt operand place := by
  simp [parenthesized]

@[simp]
theorem placesAt_commas (layouts : List Layout) :
    (commas layouts).placesAt operand place = layouts.flatMap (placesAt operand place) := by
  induction layouts with
  | nil => rfl
  | cons first rest inductionHypothesis =>
      cases rest with
      | nil => simp [commas]
      | cons second rest => simp [commas, inductionHypothesis]

/-- Inside the arguments of a function no name is bound that is not bound around it. -/
@[simp]
theorem placesAt_call (function : String) (arguments : List Layout) :
    (call function arguments).placesAt operand place =
      arguments.flatMap (placesAt operand place) := by
  simp [call]

/-- A query over the elements binds their name in all but the array. -/
@[simp]
theorem placesAt_overElements (naming : NamingForm) (selected rest : Layout) :
    (overElements naming selected rest).placesAt operand place =
      selected.placesAt operand .rebound ++
        (if .source = operand then [place.inArray] else []) ++
        rest.placesAt operand .rebound := by
  simp [overElements, placesAt, Place.under]

@[simp]
theorem placesAt_filter (condition : Layout) :
    (filter condition).placesAt operand place = condition.placesAt operand place := by
  simp [filter]

@[simp]
theorem placesAt_rowExists (naming : NamingForm) (condition : Layout) :
    (rowExists naming condition).placesAt operand place =
      (if .source = operand then [place.inArray] else []) ++
        condition.placesAt operand .rebound := by
  simp [rowExists]

/-- A lambda with the element among its parameters binds its name in the body. -/
@[simp]
theorem placesAt_lambda
    {parameters : List String}
    (binds : elementName ∈ parameters)
    (body : Layout) :
    (lambda parameters body).placesAt operand place = body.placesAt operand .rebound := by
  simp [placesAt, Place.under, binds]

end

/-- A function that takes a lambda has only the body inside of it. -/
theorem rebound_mem_places_applied
    (functions : LambdaForm)
    (function : String)
    {parameters : List String}
    (binds : elementName ∈ parameters)
    (initial : Option Slot)
    (operand : Slot) :
    .rebound ∈ (applied functions function parameters initial).places operand ↔
      operand = .body := by
  unfold applied places
  cases functions.arrayFirst <;> cases initial <;> cases operand <;> simp [binds]

section

variable (operand : Slot)

theorem rebound_mem_places_mapped (dialect : Dialect) :
    .rebound ∈ (mapped dialect).places operand ↔ operand = .body := by
  unfold mapped
  cases dialect.forms.iteration with
  | subquery naming => cases operand <;> simp [places, Place.inArray]
  | lambda functions => exact rebound_mem_places_applied _ _ (by simp) _ _

theorem rebound_mem_places_filtered (dialect : Dialect) :
    .rebound ∈ (filtered dialect).places operand ↔ operand = .body := by
  unfold filtered
  cases dialect.forms.iteration with
  | subquery naming => cases operand <;> simp [places, Place.inArray]
  | lambda functions => exact rebound_mem_places_applied _ _ (by simp) _ _

theorem rebound_mem_places_quantified (dialect : Dialect) (quantity : Quantity) :
    .rebound ∈ (quantified dialect quantity).places operand ↔ operand = .body := by
  unfold quantified places
  cases dialect.forms.quantifier with
  | rows naming => cases quantity <;> cases operand <;> simp [Place.inArray]
  | lambda forAll forSome => cases quantity <;> cases operand <;> simp

theorem rebound_mem_places_folded (functions : LambdaForm) :
    .rebound ∈ (folded functions).places operand ↔ operand = .body :=
  rebound_mem_places_applied _ _ (by simp) _ _

/-- An aggregate has its initial value among what it selects. -/
theorem rebound_mem_places_aggregated (naming : NamingForm) (aggregate : Aggregate) :
    .rebound ∈ (aggregated naming aggregate).places operand ↔ operand ≠ .source := by
  unfold aggregated places
  cases aggregate <;> cases operand <;> simp [combined, Place.inArray]

end

/-! ## Binders in the templates -/

theorem isExplicit_mapped (dialect : Dialect) : (mapped dialect).isExplicit = true := by
  cases dialect <;> decide

theorem isExplicit_filtered (dialect : Dialect) : (filtered dialect).isExplicit = true := by
  cases dialect <;> decide

theorem isExplicit_quantified (dialect : Dialect) (quantity : Quantity) :
    (quantified dialect quantity).isExplicit = true := by
  cases dialect <;> cases quantity <;> decide

theorem isExplicit_folded
    {dialect : Dialect}
    {functions : LambdaForm}
    (form : dialect.forms.iteration = .lambda functions) :
    (folded functions).isExplicit = true := by
  cases dialect <;> cases form <;> decide

theorem isExplicit_aggregated (naming : NamingForm) (aggregate : Aggregate) :
    (aggregated naming aggregate).isExplicit = true := by
  cases naming <;> cases aggregate <;> decide

end Layout
end RuleClause
