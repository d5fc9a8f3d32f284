import RuleClause.Manual.Pages
import RuleClause.Operator
import RuleClause.Text.Letters

/-!
# Topics of the manual

Every family of operators is a topic, and so are schemas, custom operators and
errors.  A topic may be asked for by several words, in either case, with hyphens
or underscores.
-/

namespace RuleClause
namespace Manual

/-- What a page of the manual is about. -/
inductive Topic where
  | family (family : OperatorFamily)
  | schema
  | custom
  | errors
deriving DecidableEq, Repr

namespace Topic

/-- Every topic. -/
def all : List Topic :=
  OperatorFamily.list.map .family ++ [.schema, .custom, .errors]

/-- The words by which a topic is known. -/
def words : Topic → List String
  | .family .data => ["data", "data-access", "var"]
  | .family .logical => ["logical", "logic"]
  | .family .comparison => ["comparison", "compare"]
  | .family .arithmetic => ["arithmetic", "math"]
  | .family .string => ["string", "strings"]
  | .family .array => ["array", "arrays"]
  | .schema => ["schema", "types"]
  | .custom => ["custom", "custom-operators"]
  | .errors => ["errors", "error"]

/-- The word that a typed name stands for. -/
def word (name : String) : String :=
  String.ofList
    ((Text.lower name).toList.map fun character => if character = '_' then '-' else character)

/-- The topic with a name. -/
def ofName? (name : String) : Option Topic :=
  all.find? (·.words.contains (word name))

/-- The lines of the page on a topic. -/
def page : Topic → List String
  | .family .data => dataPage
  | .family .logical => logicalPage
  | .family .comparison => comparisonPage
  | .family .arithmetic => arithmeticPage
  | .family .string => stringPage
  | .family .array => arrayPage
  | .schema => schemaPage
  | .custom => customPage
  | .errors => errorsPage

end Topic

/-- Lines as one text; every line has an end. -/
def text (lines : List String) : String :=
  String.join (lines.map (· ++ "\n"))

/-- A label in a column of the given width, and what follows it. -/
def labelled (width : Nat) (label content : String) : String :=
  "  " ++ label ++ String.ofList (List.replicate (width - label.length) ' ') ++ content

end Manual
end RuleClause
