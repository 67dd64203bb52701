import Mathlib.Data.List.Pairwise
import TableQuery.Proofs.Json.Decode

/-!
# Which members of an object count

A record that is written as an object depends on the values of its fields and on
nothing else. `Member.Edit` lists the changes that leave these values as they
are: members may change places, a member that is null may go or come, and so may
members that are no fields. What is decoded before such a change is decoded
after it, if the fields can be set in any order and null stands for their
defaults. The state of the decoder, the names taken up so far with the record,
is followed along the members; a state in which fewer names are taken up takes
all members that the other one takes.
-/

namespace TableQuery.Json

/-- A member of an object: its name, if that can be read, and its value. -/
abbrev Member := Except Fault String × Draft

/-- A change to the members of an object that does not touch the known members that are not null. -/
inductive Member.Edit (known : List String) : List Member → List Member → Prop
  | reorder {members others : List Member} (h : members.Perm others) : Edit known members others
  | dropNull (before after : List Member) (name : String) :
      Edit known (before ++ (.ok name, .null) :: after) (before ++ after)
  | addNull (before after : List Member) {name : String} (hknown : name ∈ known)
      (hmissing : .ok name ∉ (before ++ after).map Prod.fst) :
      Edit known (before ++ after) (before ++ (.ok name, .null) :: after)
  | dropUnknown (before after : List Member) {name : String} (value : Draft)
      (hunknown : name ∉ known) :
      Edit known (before ++ (.ok name, value) :: after) (before ++ after)
  | addUnknown (before after : List Member) {name : String} {value : Draft}
      (hunknown : name ∉ known) (hvalue : value.passOver = .ok ()) :
      Edit known (before ++ after) (before ++ (.ok name, value) :: after)

namespace Decoder

variable {α β : Type}

/-! ## Steps that can be taken in any order -/

section Fold

variable {ε γ : Type} {f : β → α → Except ε β}

/-- What a fold reaches from one state, it reaches in step from a related one. -/
theorem foldlM_related {R : β → β → Prop} {list : List α}
    (hstep : ∀ a ∈ list, ∀ {b c b'}, R b c → f b a = .ok b' → ∃ c', f c a = .ok c' ∧ R b' c')
    {b c b' : β} (hR : R b c) (h : list.foldlM f b = .ok b') :
    ∃ c', list.foldlM f c = .ok c' ∧ R b' c' := by
  induction list generalizing b c with
  | nil => exact ⟨c, rfl, Except.ok.inj h ▸ hR⟩
  | cons a rest ih =>
      rw [List.foldlM_cons, bind_eq_ok] at h
      obtain ⟨d, hd, hrest⟩ := h
      obtain ⟨e, he, hde⟩ := hstep a List.mem_cons_self hR hd
      obtain ⟨c', hc', hR'⟩ := ih (fun x hx => hstep x (List.mem_cons_of_mem _ hx)) hde hrest
      exact ⟨c', by rw [List.foldlM_cons, he]; exact hc', hR'⟩

/-- If two neighbouring steps may change places, up to a relation that steps respect, then all
steps may. -/
theorem foldlM_perm {R : β → β → Prop} (hrefl : ∀ b, R b b)
    (htrans : ∀ {b c d}, R b c → R c d → R b d)
    (hstep : ∀ a {b c b'}, R b c → f b a = .ok b' → ∃ c', f c a = .ok c' ∧ R b' c')
    (hswap : ∀ x y {b c d}, f b x = .ok c → f c y = .ok d →
      ∃ c' d', f b y = .ok c' ∧ f c' x = .ok d' ∧ R d d')
    {list others : List α} (hperm : list.Perm others) {b b' : β}
    (h : list.foldlM f b = .ok b') : ∃ c', others.foldlM f b = .ok c' ∧ R b' c' := by
  induction hperm generalizing b b' with
  | nil => exact ⟨b', h, hrefl b'⟩
  | cons a _ ih =>
      rw [List.foldlM_cons, bind_eq_ok] at h
      obtain ⟨c, hc, hrest⟩ := h
      obtain ⟨c', hc', hR⟩ := ih hrest
      exact ⟨c', by rw [List.foldlM_cons, hc]; exact hc', hR⟩
  | swap x y rest =>
      rw [List.foldlM_cons, bind_eq_ok] at h
      obtain ⟨c, hc, h⟩ := h
      rw [List.foldlM_cons, bind_eq_ok] at h
      obtain ⟨d, hd, hrest⟩ := h
      obtain ⟨c', d', hc', hd', hR⟩ := hswap y x hc hd
      obtain ⟨e', he', hR'⟩ := foldlM_related (fun a _ => hstep a) hR hrest
      refine ⟨e', ?_, hR'⟩
      rw [List.foldlM_cons, hc']
      change List.foldlM f c' (y :: rest) = .ok e'
      rw [List.foldlM_cons, hd']
      exact he'
  | trans _ _ ih ih' =>
      obtain ⟨c, hc, hR⟩ := ih h
      obtain ⟨d, hd, hR'⟩ := ih' hc
      exact ⟨d, hd, htrans hR hR'⟩

end Fold

/-! ## Taking up members -/

/-- Two fields that may be set in either order. -/
def Field.Commutes (f g : Field α) : Prop :=
  ∀ d e a c, (f.update d a >>= g.update e) = .ok c ↔ (g.update e a >>= f.update d) = .ok c

instance : Std.Symm (Field.Commutes (α := α)) := ⟨fun _ _ h d e a c => (h e d a c).symm⟩

theorem Field.commutes_of {γ : Type} {name other : String} {decode : Decoder β}
    {decode' : Decoder γ} {put : β → α → α} {put' : γ → α → α}
    (h : ∀ v w a, put' w (put v a) = put v (put' w a)) :
    (Field.of name decode put).Commutes (.of other decode' put') := by
  intro d e a c
  cases hd : decode d <;> cases he : decode' e <;>
    simp [Field.of, hd, he, h, bind, Except.bind, pure, Except.pure]

/-- Fields that may be set in any order, and to which null gives their defaults. -/
structure Independent (fields : List (Field α)) (default : α) : Prop where
  commutes : fields.Pairwise Field.Commutes
  null : ∀ field ∈ fields, field.update .null default = .ok default

variable {fields : List (Field α)} {default : α} {kind name : String}
variable {members others before after : List Member} {ending : Ending}

/-- The other state has the same record, and of the names in question it has taken up no more. -/
def Frees (asked : String → Prop) (state other : List String × α) : Prop :=
  other.2 = state.2 ∧ ∀ name ∈ other.1, asked name → name ∈ state.1

theorem takeMember_frees {asked : String → Prop} {member : Member}
    (hasked : ∀ name, member.1 = .ok name → asked name) {s t s' : List String × α}
    (hst : Frees asked s t) (h : takeMember fields s member = .ok s') :
    ∃ t', takeMember fields t member = .ok t' ∧ Frees asked s' t' := by
  obtain ⟨hrecord, hnames⟩ := hst
  obtain ⟨name, hname, htaken⟩ := takeMember_eq_ok_iff.mp h
  rcases htaken with ⟨hnone, hpass, rfl⟩ | ⟨field, a, hfind, hnew, hupdate, rfl⟩
  · exact ⟨t, takeMember_eq_ok_iff.mpr ⟨name, hname, .inl ⟨hnone, hpass, rfl⟩⟩, hrecord, hnames⟩
  · have hnew' : name ∉ t.1 := fun hmem => hnew (hnames name hmem (hasked name hname))
    refine ⟨(name :: t.1, a), takeMember_eq_ok_iff.mpr
      ⟨name, hname, .inr ⟨field, a, hfind, hnew', hrecord ▸ hupdate, rfl⟩⟩, rfl, ?_⟩
    intro other hmem hother
    rcases List.mem_cons.mp hmem with rfl | hmem
    · exact List.mem_cons_self
    · exact List.mem_cons_of_mem _ (hnames other hmem hother)

theorem takeMember_swap (hfields : fields.Pairwise Field.Commutes) (x y : Member)
    {s t u : List String × α} (hx : takeMember fields s x = .ok t)
    (hy : takeMember fields t y = .ok u) :
    ∃ t' u', takeMember fields s y = .ok t' ∧ takeMember fields t' x = .ok u' ∧
      Frees (fun _ => True) u u' := by
  obtain ⟨name, hname, htaken⟩ := takeMember_eq_ok_iff.mp hx
  obtain ⟨other, hother, htaken'⟩ := takeMember_eq_ok_iff.mp hy
  rcases htaken with ⟨hnone, hpass, rfl⟩ | ⟨f, a, hf, hnew, hupdate, rfl⟩
  · exact ⟨u, u, hy, takeMember_eq_ok_iff.mpr ⟨name, hname, .inl ⟨hnone, hpass, rfl⟩⟩, rfl,
      fun _ h _ => h⟩
  rcases htaken' with ⟨hnone, hpass, rfl⟩ | ⟨g, b, hg, hnew', hupdate', rfl⟩
  · exact ⟨s, _, takeMember_eq_ok_iff.mpr ⟨other, hother, .inl ⟨hnone, hpass, rfl⟩⟩, hx, rfl,
      fun _ h _ => h⟩
  · rw [List.mem_cons, not_or] at hnew'
    have hne : f ≠ g := by
      rintro rfl
      have hfname : f.name = name := by simpa using List.find?_some hf
      have hgname : f.name = other := by simpa using List.find?_some hg
      exact hnew'.1 (hgname.symm.trans hfname)
    have hcommutes : f.Commutes g := hfields.forall
      (List.mem_of_find?_eq_some hf) (List.mem_of_find?_eq_some hg) hne
    obtain ⟨a', ha', hb'⟩ := bind_eq_ok.mp
      ((hcommutes x.2 y.2 s.2 b).mp (bind_eq_ok.mpr ⟨a, hupdate, hupdate'⟩))
    refine ⟨(other :: s.1, a'), (name :: other :: s.1, b), ?_, ?_, rfl, ?_⟩
    · exact takeMember_eq_ok_iff.mpr ⟨other, hother, .inr ⟨g, a', hg, hnew'.2, ha', rfl⟩⟩
    · have hnew'' : name ∉ other :: s.1 := by
        rw [List.mem_cons, not_or]
        exact ⟨Ne.symm hnew'.1, hnew⟩
      exact takeMember_eq_ok_iff.mpr ⟨name, hname, .inr ⟨f, b, hf, hnew'', hb', rfl⟩⟩
    · intro third hmem _
      exact (List.Perm.swap other name s.1).subset hmem

/-! ## Objects that are decoded alike -/

theorem record_object_eq_ok_iff {a : α} :
    record kind fields default (.object members ending) = .ok a ↔
      ending = .closed ∧
        ∃ taken, members.foldlM (takeMember fields) ([], default) = .ok (taken, a) := by
  rw [record, bind_eq_ok]
  constructor
  · rintro ⟨⟨taken, b⟩, hstate, hclose⟩
    cases ending with
    | closed => exact ⟨rfl, taken, Except.ok.inj hclose ▸ hstate⟩
    | cut reading passing => cases hclose
  · rintro ⟨rfl, taken, hstate⟩
    exact ⟨_, hstate, rfl⟩

/-- What is decoded from one draft is decoded from the other as well. -/
def Carries (decode : Decoder α) (draft other : Draft) : Prop :=
  ∀ value, decode draft = .ok value → decode other = .ok value

theorem record_carries_perm (hfields : fields.Pairwise Field.Commutes)
    (hperm : members.Perm others) :
    (record kind fields default).Carries (.object members ending) (.object others ending) := by
  intro a h
  obtain ⟨hclosed, taken, htaken⟩ := record_object_eq_ok_iff.mp h
  obtain ⟨⟨taken', b⟩, hothers, hrecord, -⟩ := foldlM_perm (f := takeMember fields)
    (R := Frees fun _ => True) (fun _ => ⟨rfl, fun _ h _ => h⟩)
    (fun h h' => ⟨h'.1.trans h.1, fun name hmem _ => h.2 name (h'.2 name hmem trivial) trivial⟩)
    (fun _ _ _ _ h => takeMember_frees (fun _ _ => trivial) h)
    (fun x y _ _ _ => takeMember_swap hfields x y) hperm htaken
  cases hrecord
  exact record_object_eq_ok_iff.mpr ⟨hclosed, taken', hothers⟩

/-- A member that is no field changes nothing, if it can be passed over. -/
theorem record_insert_unknown_eq_ok_iff {value : Draft} {a : α}
    (hunknown : name ∉ fields.map Field.name) :
    record kind fields default (.object (before ++ (.ok name, value) :: after) ending) = .ok a ↔
      value.passOver = .ok () ∧
        record kind fields default (.object (before ++ after) ending) = .ok a := by
  have hstep : ∀ state state' : List String × α,
      takeMember fields state (.ok name, value) = .ok state' ↔
        value.passOver = .ok () ∧ state' = state := by
    intro state state'
    rw [takeMember_eq_ok_iff]
    constructor
    · rintro ⟨_, hname, ⟨-, hpass, hstate⟩ | ⟨field, -, hfind, -⟩⟩
      · exact ⟨hpass, hstate⟩
      · cases hname
        rw [find?_name_eq_none_iff.mpr hunknown] at hfind
        cases hfind
    · rintro ⟨hpass, hstate⟩
      exact ⟨name, rfl, .inl ⟨hunknown, hpass, hstate⟩⟩
  simp only [record_object_eq_ok_iff, List.foldlM_append, List.foldlM_cons, bind_eq_ok, hstep]
  constructor
  · rintro ⟨hclosed, taken, state, hbefore, _, ⟨hpass, rfl⟩, hafter⟩
    exact ⟨hpass, hclosed, taken, _, hbefore, hafter⟩
  · rintro ⟨hpass, hclosed, taken, state, hbefore, hafter⟩
    exact ⟨hclosed, taken, state, hbefore, state, ⟨hpass, rfl⟩, hafter⟩

/-- Taken up first, a null leaves the defaults. -/
theorem takeMember_null_eq_ok_iff (hfields : Independent fields default)
    (hknown : name ∈ fields.map Field.name) {state : List String × α} :
    takeMember fields ([], default) (.ok name, .null) = .ok state ↔ state = ([name], default) := by
  obtain ⟨field, hfind⟩ : ∃ field, fields.find? (·.name = name) = some field :=
    Option.ne_none_iff_exists'.mp fun h => find?_name_eq_none_iff.mp h hknown
  have hnull := hfields.null field (List.mem_of_find?_eq_some hfind)
  rw [takeMember_eq_ok_iff]
  constructor
  · rintro ⟨_, hname, ⟨hnone, -⟩ | ⟨other, a, hother, -, hupdate, rfl⟩⟩
    · cases hname
      exact absurd hknown hnone
    · cases hname
      obtain rfl : field = other := Option.some.inj (hfind.symm.trans hother)
      rw [Except.ok.inj (hnull.symm.trans hupdate)]
  · rintro rfl
    exact ⟨name, rfl, .inr ⟨field, default, hfind, List.not_mem_nil, hnull, rfl⟩⟩

/-- A null that stands first leaves only its name behind. -/
theorem record_cons_null_eq_ok_iff (hfields : Independent fields default)
    (hknown : name ∈ fields.map Field.name) {a : α} :
    record kind fields default (.object ((.ok name, .null) :: members) ending) = .ok a ↔
      ending = .closed ∧
        ∃ taken, members.foldlM (takeMember fields) ([name], default) = .ok (taken, a) := by
  simp only [record_object_eq_ok_iff, List.foldlM_cons, bind_eq_ok,
    takeMember_null_eq_ok_iff hfields hknown, exists_eq_left]

theorem record_carries_dropNull (hfields : Independent fields default)
    (hknown : name ∈ fields.map Field.name) :
    (record kind fields default).Carries (.object (before ++ (.ok name, .null) :: after) ending)
      (.object (before ++ after) ending) := by
  intro a h
  have hfirst := record_carries_perm hfields.commutes List.perm_middle a h
  obtain ⟨hclosed, taken, htaken⟩ := (record_cons_null_eq_ok_iff hfields hknown).mp hfirst
  have hfrees : Frees (fun _ => True) ([name], default) ([], default) :=
    ⟨rfl, fun _ hmem => absurd hmem List.not_mem_nil⟩
  obtain ⟨⟨taken', b⟩, hothers, hrecord, -⟩ :=
    foldlM_related (fun _ _ _ _ _ => takeMember_frees fun _ _ => trivial) hfrees htaken
  cases hrecord
  exact record_object_eq_ok_iff.mpr ⟨hclosed, taken', hothers⟩

theorem record_carries_addNull (hfields : Independent fields default)
    (hknown : name ∈ fields.map Field.name)
    (hmissing : .ok name ∉ (before ++ after).map Prod.fst) :
    (record kind fields default).Carries (.object (before ++ after) ending)
      (.object (before ++ (.ok name, .null) :: after) ending) := by
  intro a h
  obtain ⟨hclosed, taken, htaken⟩ := record_object_eq_ok_iff.mp h
  have hasked : ∀ member ∈ before ++ after, ∀ other, member.1 = .ok other → other ≠ name := by
    rintro member hmem other hother rfl
    exact hmissing (hother ▸ List.mem_map_of_mem hmem)
  have hfrees : Frees (· ≠ name) ([], default) ([name], default) :=
    ⟨rfl, fun _ hmem hne => absurd (List.mem_singleton.mp hmem) hne⟩
  obtain ⟨⟨taken', b⟩, hothers, hrecord, -⟩ :=
    foldlM_related (fun member hmem _ _ _ => takeMember_frees (hasked member hmem)) hfrees htaken
  cases hrecord
  exact record_carries_perm hfields.commutes List.perm_middle.symm a
    ((record_cons_null_eq_ok_iff hfields hknown).mpr ⟨hclosed, taken', hothers⟩)

/-- No change to its members that `Member.Edit` allows is seen by a record. -/
theorem record_carries_edit (hfields : Independent fields default)
    (hedit : Member.Edit (fields.map Field.name) members others) :
    (record kind fields default).Carries (.object members ending) (.object others ending) := by
  cases hedit with
  | reorder hperm => exact record_carries_perm hfields.commutes hperm
  | dropNull before after name =>
      by_cases hknown : name ∈ fields.map Field.name
      · exact record_carries_dropNull hfields hknown
      · exact fun a h => ((record_insert_unknown_eq_ok_iff hknown).mp h).2
  | addNull before after hknown hmissing => exact record_carries_addNull hfields hknown hmissing
  | dropUnknown before after value hunknown =>
      exact fun a h => ((record_insert_unknown_eq_ok_iff hunknown).mp h).2
  | addUnknown before after hunknown hvalue =>
      exact fun a h => (record_insert_unknown_eq_ok_iff hunknown).mpr ⟨hvalue, h⟩

/-! ## Changes inside a value -/

/-- A record follows a change inside the value of a field. -/
theorem record_carries_value {decode : Decoder β} {put : β → α → α} {value other : Draft}
    (hfind : fields.find? (·.name = name) = some (.of name decode put))
    (hvalue : decode.Carries value other) :
    (record kind fields default).Carries
      (.object (before ++ (.ok name, value) :: after) ending)
      (.object (before ++ (.ok name, other) :: after) ending) := by
  have hstep : ∀ state state' : List String × α,
      takeMember fields state (.ok name, value) = .ok state' →
        takeMember fields state (.ok name, other) = .ok state' := by
    intro state state' h
    obtain ⟨_, hname, ⟨hnone, -⟩ | ⟨field, a, hfield, hnew, hupdate, hstate⟩⟩ :=
      takeMember_eq_ok_iff.mp h
    · cases hname
      rw [find?_name_eq_none_iff.mpr hnone] at hfind
      cases hfind
    · cases hname
      obtain rfl := Option.some.inj (hfind.symm.trans hfield)
      obtain ⟨b, hb, rfl⟩ := update_of_eq_ok hupdate
      refine takeMember_eq_ok_iff.mpr ⟨name, rfl, .inr ⟨_, _, hfind, hnew, ?_, hstate⟩⟩
      exact bind_eq_ok.mpr ⟨b, hvalue b hb, rfl⟩
  intro a
  simp only [record_object_eq_ok_iff, List.foldlM_append, List.foldlM_cons, bind_eq_ok]
  rintro ⟨hclosed, taken, state, hbefore, state', hmember, hafter⟩
  exact ⟨hclosed, taken, state, hbefore, state', hstep state state' hmember, hafter⟩

/-- A list follows a change inside one of its items. -/
theorem list_carries_item {decode : Decoder α} {item other : Draft}
    (hitem : decode.Carries item other) (before after : List Draft) :
    (list decode).Carries (.array (before ++ item :: after) ending)
      (.array (before ++ other :: after) ending) := by
  intro values
  simp only [list, List.mapM_append, List.mapM_cons, bind_eq_ok]
  rintro ⟨all, ⟨first, hfirst, rest, ⟨value, hvalue, hrest⟩, hall⟩, hclose⟩
  exact ⟨all, ⟨first, hfirst, rest, ⟨value, hitem value hvalue, hrest⟩, hall⟩, hclose⟩

theorem optional_carries {decode : Decoder α} {draft other : Draft} (hdraft : draft ≠ .null)
    (hother : other ≠ .null) (h : decode.Carries draft other) :
    (optional decode).Carries draft other := by
  intro found
  rw [optional, optional]
  · simp only [map_eq_pure_bind, bind_eq_ok]
    rintro ⟨value, hvalue, hfound⟩
    exact ⟨value, h value hvalue, hfound⟩
  all_goals assumption

theorem map_carries {decode : Decoder β} {draft other : Draft} (read : β → α)
    (h : decode.Carries draft other) :
    Carries (fun draft => do return read (← decode draft)) draft other := by
  intro value hvalue
  obtain ⟨b, hb, hread⟩ := bind_eq_ok.mp hvalue
  exact bind_eq_ok.mpr ⟨b, h b hb, hread⟩

end Decoder

end TableQuery.Json
