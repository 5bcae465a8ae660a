import Attest.Text.Shown
import Attest.Token.Rule

/-!
# Rules by context

A rule book keeps a list of rules for each context of validation.  Adding a rule
puts it at the end of the list of its context and touches no other list.
-/

namespace Attest.Token

/-- Rules grouped by context. -/
structure RuleBook where
  /-- The rules of each context, in the order of addition. -/
  contexts : Table (List Rule) := []

namespace RuleBook

/-- The book without rules. -/
def empty : RuleBook := {}

/-- The rules of a context. -/
def rules (book : RuleBook) (context : String) : List Rule :=
  (Table.find? context book.contexts).getD []

/-- Add a rule to a context. -/
def add (book : RuleBook) (context : String) (rule : Rule) : RuleBook :=
  ⟨Table.insert context (book.rules context ++ [rule]) book.contexts⟩

/-- How a rule book is shown: the number of rules of each context. -/
def shown (book : RuleBook) : String :=
  Text.shownRecord "TokenValidationRulesRegistry"
    [("contexts", Text.shownList (book.contexts.map fun (context, rules) =>
      "(" ++ Text.quoted context ++ ", " ++ toString rules.length ++ ")"))]

@[simp]
theorem rules_empty (context : String) : empty.rules context = [] :=
  rfl

@[simp]
theorem rules_add_self (book : RuleBook) (context : String) (rule : Rule) :
    (book.add context rule).rules context = book.rules context ++ [rule] := by
  simp [add, rules]

theorem rules_add_of_ne {context other : String} (h : context ≠ other) (book : RuleBook)
    (rule : Rule) : (book.add context rule).rules other = book.rules other := by
  simp [add, rules, Table.find?_insert_of_ne h]

end RuleBook

end Attest.Token
