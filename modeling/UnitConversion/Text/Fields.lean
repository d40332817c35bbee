/-!
# Fields between separators

* `fields`: the parts of a text between the occurrences of a separator, one more than these.
* `join`: the text of a list of parts.
* `join_fields`: nothing is lost.
-/

namespace UnitConversion.Text

/-- The parts between the occurrences of a separator. -/
def fields (separator : Char) : List Char → List (List Char)
  | [] => [[]]
  | c :: rest =>
    if c = separator then [] :: fields separator rest
    else match fields separator rest with
      | first :: others => (c :: first) :: others
      | [] => [[c]]

/-- Parts with a separator between them. -/
def join (separator : Char) : List (List Char) → List Char
  | [] => []
  | [part] => part
  | part :: rest => part ++ separator :: join separator rest

theorem fields_ne_nil (separator : Char) (cs : List Char) : fields separator cs ≠ [] := by
  cases cs with
  | nil => simp [fields]
  | cons c rest =>
    unfold fields
    split
    · simp
    · split <;> simp

theorem join_cons_of_ne_nil (separator : Char) (part : List Char) {rest : List (List Char)}
    (h : rest ≠ []) : join separator (part :: rest) = part ++ separator :: join separator rest := by
  cases rest with
  | nil => exact absurd rfl h
  | cons second others => rfl

theorem join_cons_cons (separator c : Char) (first : List Char) (others : List (List Char)) :
    join separator ((c :: first) :: others) = c :: join separator (first :: others) := by
  cases others <;> simp [join]

/-- The parts of a text with the separators between them are the text. -/
theorem join_fields (separator : Char) (cs : List Char) :
    join separator (fields separator cs) = cs := by
  induction cs with
  | nil => rfl
  | cons c rest ih =>
    unfold fields
    split
    · rename_i h
      rw [join_cons_of_ne_nil _ _ (fields_ne_nil separator rest), ih, h]
      rfl
    · split
      · rename_i first others h
        rw [join_cons_cons, ← h, ih]
      · rename_i h
        exact absurd h (fields_ne_nil separator rest)

end UnitConversion.Text
