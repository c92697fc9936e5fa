/-!
# The tree of a configuration document

A document says a tree of keys and values. Strings, arrays and tables matter to a configuration;
numbers, truth values and dates are one kind of value here, since no setting takes any of them.
-/
namespace EntropyTables.Toml

inductive Value where
  | string (text : String)
  /-- A number, a truth value, a date or a time. -/
  | scalar
  | array (items : List Value)
  /-- Keys with their values, each key once. -/
  | table (members : List (String × Value))
  deriving Repr, Inhabited

end EntropyTables.Toml
