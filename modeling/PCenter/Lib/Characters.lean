import Mathlib.Data.List.Basic

/-!
# Decisions about the characters of a text

A statement about the characters in a list is decided on the list. With these instances it is so
also where a statement about all characters there are could be decided.
-/

namespace Characters

variable {p : Char → Prop} [DecidablePred p]

instance (priority := 2000) decidableOfList (l : List Char) : Decidable (∀ c ∈ l, p c) :=
  List.decidableBAll p l

instance (priority := 2000) decidableOfOption (o : Option Char) : Decidable (∀ c ∈ o, p c) :=
  Option.decidableForallMem o

end Characters
