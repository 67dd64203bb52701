import Mathlib.Algebra.Order.Ring.Int
import Mathlib.Tactic.Zify
import TableQuery.Text.Width

/-!
# Display width of texts

A text is measured from its end, and some characters take back a column that was counted for
the text on their right. They take it only from what had one of its own: `credit` is the
column that the next character can take back, and `measure` has always counted it
(`credit_le_measure`). So no text has less than no width.

A plain character, such as a blank, is one column wide and hides what follows it from what
stands before it. At such a character widths add up.
-/

namespace TableQuery.Text

namespace Width

variable {c : Char} {kind : Kind}

/-! ## Columns that are taken back -/

/-- The column that a character can take back from the text on its right. -/
def credit : Kind → Int
  | .joinedFlagLetter | .joinedFlagLetters true => 1
  | .ligature .khmer _ | .ligature .tifinaghJoiner _ => 1
  | _ => 0

theorem credit_nonneg (kind : Kind) : 0 ≤ credit kind := by
  unfold credit
  split <;> decide

theorem credit_le_one (kind : Kind) : credit kind ≤ 1 := by
  unfold credit
  split <;> decide

/-- A joiner before a letter takes nothing away from it. -/
theorem credit_ligature (letter : Ligature) (joined other : Bool) :
    credit (.ligature letter joined) = credit (.ligature letter other) := by
  cases letter <;> rfl

/-- What stands behind a selector loses its credit, or keeps it. -/
theorem credit_seen_le (follower : Follower) : credit follower.seen ≤ credit follower.kind := by
  rw [Follower.seen]
  split
  · rfl
  · exact credit_nonneg _

/-- Columns added before some text leave as much as can be taken back. -/
def Covers (kind : Kind) (added : Int × Kind) : Prop :=
  credit added.2 ≤ credit kind + added.1

instance (kind : Kind) (added : Int × Kind) : Decidable (Covers kind added) :=
  inferInstanceAs (Decidable (credit added.2 ≤ credit kind + added.1))

theorem covers_of_nonneg {columns : Int} {result : Kind} (hcolumns : 0 ≤ columns)
    (hcredit : credit result = 0) : Covers kind (columns, result) := by
  have hkind := credit_nonneg kind
  rw [Covers, hcredit]
  omega

theorem covers_one (kind result : Kind) : Covers kind (1, result) := by
  have hkind := credit_nonneg kind
  have hresult := credit_le_one result
  show credit result ≤ credit kind + 1
  omega

theorem covers_back (h : credit kind = 1) : Covers kind (-1, .nothing) := by
  rw [Covers, h]
  decide

theorem covers_ite {p : Prop} [Decidable p] {added other : Int × Kind} (hadded : Covers kind added)
    (hother : Covers kind other) : Covers kind (if p then added else other) := by
  split
  · exact hadded
  · exact hother

/-- Nothing is added, and nothing can be taken back. -/
theorem covers_zero {result : Kind} (hcredit : credit result = 0) : Covers kind (0, result) :=
  covers_of_nonneg le_rfl hcredit

theorem covers_alone (c : Char) (kind : Kind) : Covers kind (alone c) := by
  refine covers_ite (covers_of_nonneg (by decide) rfl) (covers_ite (covers_one ..)
    (covers_ite (covers_of_nonneg (by decide) rfl) ?_))
  cases letter? c with
  | some letter => exact covers_one kind letter
  | none =>
      refine covers_ite (covers_of_nonneg (by decide) rfl) (covers_of_nonneg ?_ rfl)
      split
      · decide
      split <;> decide

theorem covers_beforeAlef (c : Char) : Covers .alef (beforeAlef c) :=
  covers_ite (covers_zero rfl) (covers_ite (covers_zero rfl) (covers_alone c .alef))

theorem covers_besideLigature (c : Char) (letter : Ligature) (joined : Bool) :
    Covers (.ligature letter joined) (besideLigature c letter joined) := by
  have halone := covers_alone c (.ligature letter joined)
  cases letter with
  | khmer | tifinaghJoiner => exact covers_ite (covers_back rfl) halone
  | tifinagh => exact covers_ite (covers_one ..) (covers_ite (covers_zero rfl) halone)
  | hebrewLamed | bugineseYa | bugineseVowel | lisuTone | orkhonI =>
      exact covers_ite (covers_zero rfl) halone

theorem covers_beforeLigature (c : Char) (letter : Ligature) (joined : Bool) :
    Covers (.ligature letter joined) (beforeLigature c letter joined) := by
  have hsame (other : Bool) : Covers (.ligature letter joined) (0, .ligature letter other) := by
    rw [Covers, credit_ligature letter other joined, add_zero]
  exact covers_ite (hsame true) (covers_ite (hsame joined) (covers_besideLigature c letter joined))

theorem covers_beforeJoinable (c : Char) (kind : Kind) : Covers kind (beforeJoinable c) :=
  covers_ite (covers_zero rfl) (covers_alone c kind)

theorem covers_beforeJoinedPicture (c : Char) (kind : Kind) : Covers kind (beforeJoinedPicture c) :=
  covers_ite (covers_zero rfl) <| covers_ite (covers_one ..) <| covers_ite (covers_zero rfl) <|
    covers_ite (covers_zero rfl) <| covers_ite (covers_zero rfl) <| covers_alone c kind

theorem covers_beforeTagLetters (c : Char) (count : Nat) (kind : Kind) :
    Covers kind (beforeTagLetters c count) :=
  covers_ite (covers_zero rfl) <| covers_ite (covers_zero rfl) <| covers_ite (covers_zero rfl) <|
    covers_alone c kind

theorem covers_beforeTagDigits (c : Char) (count : Nat) (kind : Kind) :
    Covers kind (beforeTagDigits c count) :=
  covers_ite (covers_zero rfl) <| covers_ite (covers_zero rfl) <| covers_alone c kind

theorem covers_beforeKiratRaiE (c : Char) (kind : Kind) : Covers kind (beforeKiratRaiE c) := by
  unfold beforeKiratRaiE
  split
  case h_4 => exact covers_one ..
  case h_5 => exact covers_alone c kind
  all_goals exact covers_zero rfl

theorem covers_ordinary (c : Char) (kind : Kind) : Covers kind (ordinary c kind) := by
  have halone := covers_alone c kind
  have hjoinable := covers_beforeJoinable c kind
  cases kind with
  | nothing | lineFeed | joinedKeycap => exact halone
  | alef => exact covers_beforeAlef c
  | ligature letter joined => exact covers_beforeLigature c letter joined
  | picture => exact hjoinable
  | skinTone => exact covers_ite (covers_zero rfl) hjoinable
  | flagLetter => exact covers_ite (covers_one ..) halone
  | flagLetters => exact covers_ite (covers_one ..) hjoinable
  | joinedPicture => exact covers_beforeJoinedPicture c .joinedPicture
  | joinedFlagLetter => exact covers_ite (by decide) halone
  | joinedFlagLetters odd =>
      refine covers_ite ?_ hjoinable
      cases odd <;> decide
  | tagLetters count => exact covers_beforeTagLetters c count _
  | tagDigits count => exact covers_beforeTagDigits c count _
  | kiratRaiE => exact covers_beforeKiratRaiE c .kiratRaiE
  | kiratRaiAi => exact covers_ite (covers_zero rfl) halone

theorem covers_step (c : Char) (follower : Follower) :
    Covers follower.kind ((step c follower).1, (step c follower).2.kind) := by
  have hseen := credit_seen_le follower
  -- A selector keeps what stands behind it, or hides it.
  have hselector (keeps : Bool) :
      Covers follower.kind (0, if keeps then follower.seen else .nothing) := by
    cases keeps with
    | true => exact hseen.trans (add_zero _).ge
    | false => exact covers_zero rfl
  unfold step
  split
  · split
    · exact covers_zero rfl
    · exact covers_of_nonneg (by decide) rfl
  split
  · exact covers_one ..
  split
  · exact covers_zero rfl
  split
  · exact covers_one ..
  split
  · exact hselector _
  split
  · exact hselector _
  split
  · exact covers_one ..
  · have hordinary : Covers follower.seen (ordinary c follower.seen) := covers_ordinary ..
    exact hordinary.trans (add_le_add_left hseen _)

/-- What can be taken back from a text has been counted in it. -/
theorem credit_le_measure (text : List Char) :
    credit (measure text).2.kind ≤ (measure text).1 := by
  induction text with
  | nil => decide
  | cons c rest ih =>
      have hstep := covers_step c (measure rest).2
      simp only [measure, Covers] at hstep ⊢
      omega

theorem measure_nonneg (text : List Char) : 0 ≤ (measure text).1 :=
  (credit_nonneg _).trans (credit_le_measure text)

/-! ## Characters that hide what follows them -/

/-- Whether a character is one column wide in every text. -/
structure IsPlain (c : Char) : Prop where
  latin : c.toNat ≤ 0xA0
  not_lineFeed : c ≠ '\n'
  not_return : c ≠ '\r'
  not_variable : isVariable c = false

theorem isPlain_blank : IsPlain ' ' where
  latin := by decide
  not_lineFeed := by decide
  not_return := by decide
  not_variable := by decide +kernel

theorem isPlain_dash : IsPlain '-' where
  latin := by decide
  not_lineFeed := by decide
  not_return := by decide
  not_variable := by decide +kernel

theorem IsPlain.step_eq (h : IsPlain c) (follower : Follower) :
    step c follower = (1, ⟨.nothing, none⟩) := by
  simp [step, h.latin, h.not_lineFeed, h.not_return, h.not_variable]

theorem IsPlain.measure_cons (h : IsPlain c) (rest : List Char) :
    measure (c :: rest) = ((measure rest).1 + 1, ⟨.nothing, none⟩) := by
  simp only [measure, h.step_eq]

theorem IsPlain.measure_replicate (h : IsPlain c) (n : Nat) :
    measure (List.replicate n c) = ((n : Int), ⟨.nothing, none⟩) := by
  induction n with
  | zero => rfl
  | succ n ih => rw [List.replicate_succ, h.measure_cons, ih, Nat.cast_succ]

/-- A text measures the same before a text that it does not look into. -/
theorem measure_append {rest : List Char} (text : List Char)
    (h : (measure rest).2 = ⟨.nothing, none⟩) :
    measure (text ++ rest) = ((measure text).1 + (measure rest).1, (measure text).2) := by
  induction text with
  | nil =>
      show measure rest = (0 + (measure rest).1, ⟨.nothing, none⟩)
      rw [zero_add, ← h]
  | cons c text ih =>
      simp only [List.cons_append, measure, ih]
      rw [add_right_comm]

end Width

open Width

theorem cast_width (text : List Char) : (width text : Int) = (measure text).1 :=
  Int.toNat_of_nonneg (measure_nonneg text)

variable {c : Char}

/-- A plain character is one column wide, and the texts around it do not look into each other. -/
theorem width_append_cons (h : IsPlain c) (text rest : List Char) :
    width (text ++ c :: rest) = width text + (width rest + 1) := by
  have hnothing : (measure (c :: rest)).2 = ⟨.nothing, none⟩ := by rw [h.measure_cons]
  zify
  rw [cast_width, cast_width, cast_width, measure_append text hnothing, h.measure_cons]

theorem width_replicate (h : IsPlain c) (n : Nat) : width (List.replicate n c) = n := by
  zify
  rw [cast_width, h.measure_replicate]

end TableQuery.Text
