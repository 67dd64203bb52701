import TableQuery.Json.Decode

/-!
# What decoders yield

`Decoder.Yields P` says that every value that a decoder gives has the property
`P`, whatever the text. For a record it is enough that the defaults have the
property and that no field takes it away. The other direction is for texts that
were written: a list of drafts is decoded item by item.
-/

namespace TableQuery.Json.Decoder

variable {α β : Type}

/-- Every value that is decoded has a property. -/
def Yields (decode : Decoder α) (P : α → Prop) : Prop :=
  ∀ draft value, decode draft = .ok value → P value

theorem bind_eq_ok {ε : Type} {x : Except ε α} {f : α → Except ε β} {b : β} :
    x >>= f = .ok b ↔ ∃ a, x = .ok a ∧ f a = .ok b := by
  cases x with
  | error e => simp [bind, Except.bind]
  | ok a => simp [bind, Except.bind]

theorem mismatch_ne_ok (expected : String) (draft : Draft) (value : α) :
    mismatch expected draft ≠ .ok value := by
  cases draft with
  | null | bool | array | object | broken => simp [mismatch, faulty]
  | numeral n => cases n <;> simp [mismatch, readable, bind, Except.bind]
  | string s => cases s <;> simp [mismatch, readable, bind, Except.bind]

theorem close_eq_ok {value result : α} {ending : Ending} (h : close value ending = .ok result) :
    result = value := by
  cases ending with
  | closed => exact (Except.ok.inj h).symm
  | cut reading passing => simp [close, faulty] at h

/-- A property that no step takes away holds after the last one. -/
theorem foldlM_preserves {ε : Type} {P : β → Prop} {step : β → α → Except ε β} {list : List α}
    (hstep : ∀ a ∈ list, ∀ b b', step b a = .ok b' → P b → P b') {b b' : β}
    (h : list.foldlM step b = .ok b') (hb : P b) : P b' := by
  induction list generalizing b with
  | nil => exact Except.ok.inj h ▸ hb
  | cons a rest ih =>
      rw [List.foldlM_cons, bind_eq_ok] at h
      obtain ⟨c, hc, hrest⟩ := h
      have hc' : P c := hstep a List.mem_cons_self b c hc hb
      exact ih (fun x hx => hstep x (List.mem_cons_of_mem _ hx)) hrest hc'

theorem forall_of_mapM_eq_ok {ε : Type} {P : β → Prop} {f : α → Except ε β}
    (hf : ∀ a b, f a = .ok b → P b) {list : List α} {result : List β}
    (h : list.mapM f = .ok result) : ∀ b ∈ result, P b := by
  induction list generalizing result with
  | nil =>
      rw [List.mapM_nil] at h
      rw [← Except.ok.inj h]
      simp
  | cons a rest ih =>
      rw [List.mapM_cons, bind_eq_ok] at h
      obtain ⟨b, hb, h⟩ := h
      rw [bind_eq_ok] at h
      obtain ⟨others, hothers, h⟩ := h
      rw [← Except.ok.inj h, List.forall_mem_cons]
      exact ⟨hf a b hb, ih hothers⟩

theorem optional_yields {decode : Decoder α} {P : α → Prop} (h : decode.Yields P) :
    (optional decode).Yields fun found => ∀ value ∈ found, P value := by
  intro draft found hfound
  cases draft with
  | null =>
      rw [← Except.ok.inj hfound]
      simp
  | bool | numeral | string | array | object | broken =>
      rw [optional, map_eq_pure_bind, bind_eq_ok] at hfound
      · obtain ⟨value, hvalue, hsome⟩ := hfound
        rw [← Except.ok.inj hsome]
        simpa using h _ _ hvalue
      · simp

theorem map_yields {decode : Decoder β} {Q : β → Prop} (h : decode.Yields Q) {read : β → α}
    {P : α → Prop} (hread : ∀ b, Q b → P (read b)) :
    Yields (fun draft => do return read (← decode draft)) P := by
  intro draft value hvalue
  obtain ⟨b, hb, hresult⟩ := bind_eq_ok.mp hvalue
  rw [← Except.ok.inj hresult]
  exact hread b (h draft b hb)

theorem list_yields {decode : Decoder α} {P : α → Prop} (h : decode.Yields P) :
    (list decode).Yields fun values => ∀ value ∈ values, P value := by
  intro draft values hvalues
  cases draft with
  | array items ending =>
      rw [list, bind_eq_ok] at hvalues
      obtain ⟨decoded, hdecoded, hclose⟩ := hvalues
      rw [close_eq_ok hclose]
      exact forall_of_mapM_eq_ok h hdecoded
  | null | bool | numeral | string | object | broken =>
      simp only [list] at hvalues
      exact (mismatch_ne_ok _ _ _ hvalues).elim

theorem update_of_eq_ok {name : String} {decode : Decoder β} {put : β → α → α} {draft : Draft}
    {a a' : α} (h : (Field.of name decode put).update draft a = .ok a') :
    ∃ value, decode draft = .ok value ∧ a' = put value a := by
  obtain ⟨value, hvalue, hput⟩ := bind_eq_ok.mp h
  exact ⟨value, hvalue, (Except.ok.inj hput).symm⟩

theorem find?_name_eq_none_iff {fields : List (Field α)} {name : String} :
    fields.find? (·.name = name) = none ↔ name ∉ fields.map Field.name := by
  simp [List.find?_eq_none]

theorem readable_eq_ok_iff {x : Except Fault β} {value : β} :
    readable x = .ok value ↔ x = .ok value := by
  cases x <;> simp [readable]

/-- A member is taken up in one of two ways: as one that is no field, of which nothing is kept, or
as a field that has not been there before. -/
theorem takeMember_eq_ok_iff {fields : List (Field α)} {member : Except Fault String × Draft}
    {state state' : List String × α} : takeMember fields state member = .ok state' ↔
      ∃ name, member.1 = .ok name ∧
        ((name ∉ fields.map Field.name ∧ member.2.passOver = .ok () ∧ state' = state) ∨
          ∃ field a, fields.find? (·.name = name) = some field ∧ name ∉ state.1 ∧
            field.update member.2 state.2 = .ok a ∧ state' = (name :: state.1, a)) := by
  constructor
  · intro h
    obtain ⟨name, hname, h⟩ := bind_eq_ok.mp h
    refine ⟨name, readable_eq_ok_iff.mp hname, ?_⟩
    cases hfind : fields.find? (·.name = name) with
    | none =>
        rw [hfind] at h
        obtain ⟨⟨⟩, hpass, h⟩ := bind_eq_ok.mp h
        exact .inl ⟨find?_name_eq_none_iff.mp hfind, readable_eq_ok_iff.mp hpass,
          (Except.ok.inj h).symm⟩
    | some field =>
        rw [hfind] at h
        by_cases hseen : name ∈ state.1
        · simp [hseen] at h
        · simp only [hseen, if_false] at h
          obtain ⟨a, hupdate, h⟩ := bind_eq_ok.mp h
          exact .inr ⟨field, a, rfl, hseen, hupdate, (Except.ok.inj h).symm⟩
  · rintro ⟨name, hname, ⟨hnone, hpass, rfl⟩ | ⟨field, a, hfind, hnew, hupdate, rfl⟩⟩
    · rw [takeMember, readable_eq_ok_iff.mpr hname]
      simp [find?_name_eq_none_iff.mpr hnone, hpass, readable, bind, Except.bind, pure, Except.pure]
    · rw [takeMember, readable_eq_ok_iff.mpr hname]
      simp [hfind, hnew, hupdate, bind, Except.bind, pure, Except.pure]

theorem takeMember_preserves {P : α → Prop} {fields : List (Field α)}
    (hfields : ∀ field ∈ fields, ∀ draft a a', field.update draft a = .ok a' → P a → P a')
    {member : Except Fault String × Draft} {state state' : List String × α}
    (h : takeMember fields state member = .ok state') (hstate : P state.2) : P state'.2 := by
  obtain ⟨name, -, htaken⟩ := takeMember_eq_ok_iff.mp h
  rcases htaken with ⟨-, -, rfl⟩ | ⟨field, a, hfind, -, hupdate, rfl⟩
  · exact hstate
  · exact hfields field (List.mem_of_find?_eq_some hfind) member.2 state.2 a hupdate hstate

/-- A record has a property that its defaults have and that no field takes away. -/
theorem record_yields {P : α → Prop} {kind : String} {fields : List (Field α)} {default : α}
    (hdefault : P default)
    (hfields : ∀ field ∈ fields, ∀ draft a a', field.update draft a = .ok a' → P a → P a') :
    (record kind fields default).Yields P := by
  intro draft value hvalue
  cases draft with
  | object members ending =>
      rw [record, bind_eq_ok] at hvalue
      obtain ⟨state, hstate, hclose⟩ := hvalue
      rw [close_eq_ok hclose]
      exact foldlM_preserves (P := fun state => P state.2)
        (fun member _ s s' h => takeMember_preserves hfields h) hstate hdefault
  | array items ending =>
      rw [record, bind_eq_ok] at hvalue
      obtain ⟨result, hresult, h⟩ := hvalue
      have hresult' : P result := by
        refine foldlM_preserves ?_ hresult hdefault
        intro pair hpair a a' hupdate
        exact hfields pair.1 (List.of_mem_zip hpair).1 pair.2 a a' hupdate
      split at h
      · simp [faulty] at h
      · exact close_eq_ok h ▸ hresult'
  | null | bool | numeral | string | broken =>
      simp only [record] at hvalue
      exact (mismatch_ne_ok _ _ _ hvalue).elim

/-- Drafts of values that are decoded back are decoded back as a list. -/
theorem mapM_map_eq_ok {ε : Type} {f : β → α} {decode : α → Except ε β} {list : List β}
    (h : ∀ b ∈ list, decode (f b) = .ok b) : (list.map f).mapM decode = .ok list := by
  induction list with
  | nil => rfl
  | cons b rest ih =>
      rw [List.forall_mem_cons] at h
      rw [List.map_cons, List.mapM_cons, h.1, ih h.2]
      rfl

theorem run_eq_ok {decode : Decoder α} {text : String} {value : α}
    (h : decode.run text = .ok value) : decode (Draft.ofText text.toList).1 = .ok value := by
  obtain ⟨result, hresult, hmore⟩ := bind_eq_ok.mp h
  split at hmore
  · simp [faulty] at hmore
  · exact Except.ok.inj hmore ▸ hresult

end TableQuery.Json.Decoder
