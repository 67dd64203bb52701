import TableQuery.Proofs.Text.LowerCase
import TableQuery.Query.Search

/-!
# Which search terms are never missed

A search lower-cases the text of the term and the text of the cell, each as a
whole, and then trims both. Trimming never cuts into an occurrence. Lower-casing
may: a capital sigma that ends the term's text takes its final form there, and
the small form inside a word of the cell. So a text that stands in the cell
character for character is found when its capital sigmas take the same form in
both, and this is so in every cell exactly if the text of the term settles them.
-/

namespace TableQuery

theorem Row.value_ofList_singleton (column : String) (cell : Cell) :
    Row.value (.ofList [(column, cell)]) column = cell := by
  simp [value, OrderedMap.ofList]

namespace SearchTerm

open Text.LowerCase (sigma SettlesSigmas sigma_append_of_settled exists_not_infix)

variable {column value : String} {row : Row} {before following : List Char}

theorem finds_iff : (SearchTerm.mk column value).finds row ↔
    Text.trim (Text.lowerCase value.toList) <:+:
      Text.trim (Text.lowerCase (row.value column).toText.toList) :=
  Text.occursIn_iff_infix

theorem finds_of_occurrence
    (htext : (row.value column).toText.toList = before ++ (value.toList ++ following))
    (hforms : ∀ part rest, value.toList = part ++ '\u03A3' :: rest →
      sigma (part.reverse ++ before.reverse) (rest ++ following) = sigma part.reverse rest) :
    (SearchTerm.mk column value).finds row := by
  rw [finds_iff, htext]
  exact Text.trim_infix_trim (Text.LowerCase.lowerCase_infix_lowerCase hforms)

theorem finds_of_settlesSigmas (h : SettlesSigmas value.toList)
    (hoccurs : value.toList <:+: (row.value column).toText.toList) :
    (SearchTerm.mk column value).finds row := by
  obtain ⟨before, following, htext⟩ := hoccurs
  rw [List.append_assoc] at htext
  exact finds_of_occurrence htext.symm fun part rest hvalue =>
    sigma_append_of_settled (h part rest hvalue) _ _

/-- A text with a sigma that it does not settle is missed in some cell that contains it. -/
theorem exists_not_finds (h : ¬SettlesSigmas value.toList) (column : String) :
    ∃ row : Row, value.toList <:+: (row.value column).toText.toList ∧
      ¬(SearchTerm.mk column value).finds row := by
  rw [SettlesSigmas] at h
  push Not at h
  obtain ⟨part, rest, hvalue, hsettled⟩ := h
  obtain ⟨before, following, hmissed⟩ := exists_not_infix hsettled
  refine ⟨.ofList [(column, .text (String.ofList (before ++ (value.toList ++ following))))], ?_, ?_⟩
  · rw [Row.value_ofList_singleton, Cell.toText_text, String.toList_ofList, ← List.append_assoc]
    exact List.infix_append ..
  · rwa [finds_iff, Row.value_ofList_singleton, Cell.toText_text, String.toList_ofList, hvalue]

/-- A text that occurs in a cell character for character is found there if each capital sigma of it
takes the same form in the text of the cell as in the searched text alone. Exactly the texts that
settle their capital sigmas are found in every cell in which they occur. -/
theorem finds_of_infix_iff (value : String) :
    (∀ (column : String) (row : Row) (before following : List Char),
        (row.value column).toText.toList = before ++ (value.toList ++ following) →
        (∀ part rest, value.toList = part ++ '\u03A3' :: rest →
          sigma (part.reverse ++ before.reverse) (rest ++ following) = sigma part.reverse rest) →
        (SearchTerm.mk column value).finds row) ∧
      ((∀ (column : String) (row : Row), value.toList <:+: (row.value column).toText.toList →
          (SearchTerm.mk column value).finds row) ↔ SettlesSigmas value.toList) := by
  refine ⟨fun _ _ _ _ => finds_of_occurrence, fun hfinds => ?_,
    fun h _ _ => finds_of_settlesSigmas h⟩
  by_contra h
  obtain ⟨row, hoccurs, hmissed⟩ := exists_not_finds h ""
  exact hmissed (hfinds "" row hoccurs)

/-- A word with a sigma at either end is found between blanks, and wherever it stands when the blank
behind it is searched for as well. -/
theorem finds_of_infix_iff_word :
    (Row.value (.ofList [("c", .text "Ο ΣΟΦΟΣ ΑΝΗΡ")]) "c").toText.toList =
        "Ο ".toList ++ ("ΣΟΦΟΣ ".toList ++ "ΑΝΗΡ".toList) ∧
      SettlesSigmas "ΣΟΦΟΣ ".toList ∧
      (SearchTerm.mk "c" "ΣΟΦΟΣ ").finds (.ofList [("c", .text "Ο ΣΟΦΟΣ ΑΝΗΡ")]) := by
  have htext : (Row.value (.ofList [("c", .text "Ο ΣΟΦΟΣ ΑΝΗΡ")]) "c").toText.toList =
      "Ο ".toList ++ ("ΣΟΦΟΣ ".toList ++ "ΑΝΗΡ".toList) := by
    simp [Row.value_ofList_singleton]
  have hsettles : SettlesSigmas "ΣΟΦΟΣ ".toList := by decide +kernel
  obtain ⟨hoccurrence, -⟩ := finds_of_infix_iff "ΣΟΦΟΣ "
  refine ⟨htext, hsettles, hoccurrence _ _ _ _ htext fun part rest hvalue => ?_⟩
  exact sigma_append_of_settled (hsettles part rest hvalue) _ _

/-- The beginning of a name that ends in a sigma is missed in the name. -/
theorem not_finds_beginning_of_name :
    "ΟΔΥΣ".toList <:+: (Row.value (.ofList [("c", .text "ΟΔΥΣΣΕΑΣ")]) "c").toText.toList ∧
      ¬(SearchTerm.mk "c" "ΟΔΥΣ").finds (.ofList [("c", .text "ΟΔΥΣΣΕΑΣ")]) := by
  rw [finds_iff, Row.value_ofList_singleton, Cell.toText_text]
  decide +kernel

end SearchTerm

end TableQuery
