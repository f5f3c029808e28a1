import AgentForge.Lib.JsonText

/-!
# JSON lines

Documents one after the other, each ended by a newline. A newline inside a text is escaped, so a marshalled document has none,
and the lines of such a text are its documents again (`splitOn_lines`).
-/

set_option autoImplicit false

namespace AgentForge.Lib.JsonText

/-! ## One line -/

theorem newline_not_mem_escape (c : Char) : '\n' ∉ escape c := by
  intro newline
  unfold escape at newline
  split at newline
  · next letter _ found =>
    have known := List.mem_of_find?_eq_some found
    have other : ∀ pair ∈ shortEscapes, pair.1 ≠ '\n' := by decide
    rcases List.mem_cons.mp newline with slash | same
    · exact absurd slash (by decide)
    · exact other _ known (List.mem_singleton.mp same).symm
  · next missing =>
    split at newline
    · have digit : ∀ n < 16, Nat.digitChar n ≠ '\n' := by decide
      simp only [unicodeEscape, List.mem_cons, List.not_mem_nil, or_false] at newline
      rcases newline with slash | u | a | b | c | d
      · exact absurd slash (by decide)
      · exact absurd u (by decide)
      · exact digit _ (Nat.mod_lt _ (by decide)) a.symm
      · exact digit _ (Nat.mod_lt _ (by decide)) b.symm
      · exact digit _ (Nat.mod_lt _ (by decide)) c.symm
      · exact digit _ (Nat.mod_lt _ (by decide)) d.symm
    · -- The newline itself has a short escape.
      rw [← List.mem_singleton.mp newline] at missing
      exact absurd missing (by decide)

theorem newline_not_mem_printString (s : String) : '\n' ∉ printString s := by
  have characters : '\n' ∉ s.toList.flatMap escape := fun newline =>
    have ⟨c, _, escaped⟩ := List.mem_flatMap.mp newline
    newline_not_mem_escape c escaped
  simp [printString, characters]

theorem newline_not_mem_printInt (n : Int) : '\n' ∉ printInt n := by
  have digits : '\n' ∉ Nat.toDigits 10 n.natAbs := fun newline => absurd (isDigit_toDigits _ _ newline) (by decide)
  unfold printInt
  split <;> simp [digits]

mutual

theorem newline_not_mem_print : ∀ found : Json, '\n' ∉ print found
  | .null | .bool false | .bool true => by simp [print]
  | .str s => by simpa only [print] using newline_not_mem_printString s
  | .num n => by simpa only [print] using newline_not_mem_printInt n
  | .real mantissa exponent => by
    simp [print, newline_not_mem_printInt mantissa, newline_not_mem_printInt exponent]
  | .arr [] => by simp [print]
  | .arr (item :: more) => by
    simp [print, newline_not_mem_print item, newline_not_mem_printItems more]
  | .obj [] => by simp [print]
  | .obj ((key, value) :: more) => by
    simp [print, newline_not_mem_printString key, newline_not_mem_print value, newline_not_mem_printMembers more]

theorem newline_not_mem_printItems : ∀ found : List Json, '\n' ∉ printItems found
  | [] => by simp [printItems]
  | item :: more => by
    simp [printItems, newline_not_mem_print item, newline_not_mem_printItems more]

theorem newline_not_mem_printMembers : ∀ found : List (String × Json), '\n' ∉ printMembers found
  | [] => by simp [printMembers]
  | (key, value) :: more => by
    simp [printMembers, newline_not_mem_printString key, newline_not_mem_print value, newline_not_mem_printMembers more]

end

/-! ## Lines -/

/-- The documents, each on a line of its own. -/
def lines (documents : List Json) : List Char := documents.flatMap fun document => print document ++ ['\n']

/-- Nothing follows the last newline. -/
theorem splitOn_lines (documents : List Json) : (lines documents).splitOn '\n' = documents.map print ++ [[]] := by
  induction documents with
  | nil => rfl
  | cons document rest ih =>
    have first : ∀ c ∈ print document, (c == '\n') = false := fun c member =>
      beq_eq_false_iff_ne.mpr fun same => newline_not_mem_print document (same ▸ member)
    have text : lines (document :: rest) = print document ++ '\n' :: lines rest := by simp [lines]
    rw [text, List.splitOn, List.splitOnP_append_cons_of_forall_mem first _ (beq_self_eq_true _), ← List.splitOn, ih]
    rfl

end AgentForge.Lib.JsonText
