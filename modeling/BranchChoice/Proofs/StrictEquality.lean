import BranchChoice.Comparison
import BranchChoice.Proofs.NearestRank
import Mathlib.Data.List.Perm.Subperm

/-!
# Strict equality

Two values are strictly equal if they have the same canonical form: a number stands for its exact
value, whichever way it is written, an object for the finite map from its names to the canonical
forms of their values, and what is not a number stands for nothing (`strictEquals_iff`).  Equality
of forms is symmetric and transitive, so strict equality is, among values whose objects use each
name once.

What a path leads to is a matter of the form (`canonical?_resolve`): in strictly equal values it
leads to strictly equal ones, or nowhere (`resolve_alike`).
-/

namespace BranchChoice

/-! ## Names of an object -/

namespace Fields

theorem mem_of_lookup {fields : Fields} {name : String} {v : Json}
    (h : fields.lookup name = some v) : (name, v) ∈ fields := by
  obtain ⟨before, after, rfl, -⟩ := List.lookup_eq_some_iff.1 h
  exact List.mem_append_right before List.mem_cons_self

/-- Where each name is used once, every member is found under its name. -/
theorem lookup_of_mem {fields : Fields} (hnames : (fields.map (·.1)).Nodup) {name : String}
    {v : Json} (h : (name, v) ∈ fields) : fields.lookup name = some v := by
  obtain ⟨before, after, rfl⟩ := List.append_of_mem h
  refine List.lookup_eq_some_iff.2 ⟨before, after, rfl, fun member hmember => bne_iff_ne.2 ?_⟩
  rw [List.map_append, List.nodup_append] at hnames
  exact (hnames.2.2 _ (List.mem_map_of_mem hmember) _ List.mem_cons_self).symm

theorem lookup_eq_none_iff {fields : Fields} {name : String} :
    fields.lookup name = none ↔ name ∉ fields.map (·.1) := by
  simp only [List.lookup_eq_none_iff, bne_iff_ne, List.mem_map, not_exists, not_and]
  exact forall₂_congr fun member _ => ne_comm

end Fields

/-! ## Canonical forms -/

/-- What a value stands for when spelling does not count. -/
inductive Canonical where
  | null
  | bool (value : Bool)
  | text (value : String)
  | number (extent : Binary64.Extent)
  | list (items : List Canonical)
  | object (member : String → Option Canonical)

namespace Json

mutual

/-- The canonical form of a value, unless there is something in it that is not a number. -/
def canonical? : Json → Option Canonical
  | null => some .null
  | bool b => some (.bool b)
  | text s => some (.text s)
  | list items => (canonicalItems? items).map .list
  | object fields => (canonicalMembers? fields).map .object
  | int n => (int n).extent?.map .number
  | float x => (float x).extent?.map .number

/-- The canonical forms of items. -/
def canonicalItems? : List Json → Option (List Canonical)
  | [] => some []
  | v :: rest =>
    match canonical? v, canonicalItems? rest with
    | some c, some cs => some (c :: cs)
    | _, _ => none

/-- The map from the names of members to the canonical forms of their values. -/
def canonicalMembers? : List (String × Json) → Option (String → Option Canonical)
  | [] => some fun _ => none
  | (k, v) :: rest =>
    match canonical? v, canonicalMembers? rest with
    | some c, some m => some fun name => if k = name then some c else m name
    | _, _ => none

end

theorem canonicalMembers?_eq_some_iff {fields : Fields} {m : String → Option Canonical} :
    canonicalMembers? fields = some m ↔
      (∀ p ∈ fields, p.2.canonical? ≠ none) ∧
        m = fun name => (fields.lookup name).bind canonical? := by
  induction fields generalizing m with
  | nil => simp [canonicalMembers?, eq_comm]
  | cons member rest ih =>
    obtain ⟨k, v⟩ := member
    rw [canonicalMembers?]
    cases hv : canonical? v with
    | none => simp [hv]
    | some c =>
      cases hrest : canonicalMembers? rest with
      | none =>
        have hnone : ¬ ∀ p ∈ rest, p.2.canonical? ≠ none := by
          intro hall
          have hsome := (ih (m := fun name => (List.lookup name rest).bind canonical?)).2
            ⟨hall, rfl⟩
          rw [hrest] at hsome
          simp at hsome
        simp only [reduceCtorEq, false_iff, not_and]
        intro hall
        exact absurd (fun p hp => hall p (List.mem_cons_of_mem _ hp)) hnone
      | some m' =>
        obtain ⟨hall, hm'⟩ := ih.1 hrest
        have hfun : (fun name => if k = name then some c else m' name) =
            fun name => (List.lookup name ((k, v) :: rest)).bind canonical? := by
          funext name
          rw [List.lookup_cons, hm']
          by_cases hk : k = name
          · simp [hk, hv]
          · simp [hk, beq_false_of_ne (Ne.symm hk)]
        simp only [Option.some.injEq, hfun, eq_comm (a := m), List.forall_mem_cons, hv, ne_eq,
          reduceCtorEq, not_false_eq_true, true_and]
        exact ⟨fun h => ⟨hall, h⟩, fun h => h.2⟩

/-! ## Strict equality is equality of forms -/

theorem wellFormed_of_mem {fields : Fields} (h : wellFormedFields fields = true) {p : String × Json}
    (hp : p ∈ fields) : p.2.wellFormed = true := by
  induction fields with
  | nil => simp at hp
  | cons member rest ih =>
    obtain ⟨k, v⟩ := member
    simp only [wellFormedFields, Bool.and_eq_true] at h
    rcases List.mem_cons.1 hp with rfl | hp
    · exact h.1
    · exact ih h.2 hp

theorem wellFormed_object {fields : Fields} :
    (object fields).wellFormed = true ↔
      (fields.map (·.1)).Nodup ∧ wellFormedFields fields = true := by
  simp [wellFormed]

theorem canonical?_eq_number_iff {v : Json} {e : Binary64.Extent} :
    v.canonical? = some (.number e) ↔ v.extent? = some e := by
  cases v with
  | int n => simp only [canonical?, Option.map_eq_some_iff, Canonical.number.injEq, exists_eq_right]
  | float x =>
    simp only [canonical?, Option.map_eq_some_iff, Canonical.number.injEq, exists_eq_right]
  | _ => simp [canonical?, extent?]

/-- Two values have a canonical form in common. -/
def SameForm (v w : Json) : Prop :=
  ∃ c, v.canonical? = some c ∧ w.canonical? = some c

/-- Members that all have forms have one for each of their names, and for these only. -/
theorem mem_names_iff {fields : Fields} (hforms : ∀ p ∈ fields, p.2.canonical? ≠ none)
    (name : String) :
    name ∈ fields.map (·.1) ↔ (fields.lookup name).bind canonical? ≠ none := by
  cases hget : fields.lookup name with
  | none => simpa [hget] using Fields.lookup_eq_none_iff.1 hget
  | some v =>
    have hmem := Fields.mem_of_lookup hget
    have hv : canonical? v ≠ none := hforms _ hmem
    simp only [Option.bind_some]
    exact ⟨fun _ => hv, fun _ => List.mem_map.2 ⟨_, hmem, rfl⟩⟩

section Objects

variable {fields others : Fields} (hfields : (fields.map (·.1)).Nodup)
  (hothers : (others.map (·.1)).Nodup)

include hfields hothers

/-- Objects with one form have the same names, and under each name a form in common. -/
theorem members_of_sameForms {m : String → Option Canonical}
    (hm : canonicalMembers? fields = some m) (hm' : canonicalMembers? others = some m) :
    fields.length = others.length ∧
      ∀ p ∈ fields, ∃ w, others.lookup p.1 = some w ∧ SameForm p.2 w := by
  obtain ⟨hall, hmap⟩ := canonicalMembers?_eq_some_iff.1 hm
  obtain ⟨hall', hmap'⟩ := canonicalMembers?_eq_some_iff.1 hm'
  have hforms (name : String) : (fields.lookup name).bind canonical? =
      (others.lookup name).bind canonical? := congrFun (hmap.symm.trans hmap') name
  have hperm : (fields.map (·.1)).Perm (others.map (·.1)) := by
    rw [List.perm_ext_iff_of_nodup hfields hothers]
    intro name
    rw [mem_names_iff hall, mem_names_iff hall', hforms]
  refine ⟨by simpa using hperm.length_eq, ?_⟩
  rintro ⟨k, v⟩ hp
  have hget := Fields.lookup_of_mem hfields hp
  obtain ⟨c, hc⟩ := Option.ne_none_iff_exists'.1 (hall _ hp)
  have hk : (others.lookup k).bind canonical? = some c := by
    rw [← hforms, hget]
    exact hc
  obtain ⟨w, hw, hwc⟩ := Option.bind_eq_some_iff.1 hk
  exact ⟨w, hw, c, hc, hwc⟩

/-- Objects with the same names, and under each name a form in common, have one form. -/
theorem sameForms_of_members (hlength : fields.length = others.length)
    (hmembers : ∀ p ∈ fields, ∃ w, others.lookup p.1 = some w ∧ SameForm p.2 w) :
    ∃ m, canonicalMembers? fields = some m ∧ canonicalMembers? others = some m := by
  have hsubset : fields.map (·.1) ⊆ others.map (·.1) := by
    intro name hname
    obtain ⟨p, hp, rfl⟩ := List.mem_map.1 hname
    obtain ⟨w, hw, -⟩ := hmembers p hp
    exact List.mem_map.2 ⟨_, Fields.mem_of_lookup hw, rfl⟩
  have hperm : (fields.map (·.1)).Perm (others.map (·.1)) :=
    (List.subperm_of_subset hfields hsubset).perm_of_length_le (by simp [hlength])
  have hforms (name : String) : (fields.lookup name).bind canonical? =
      (others.lookup name).bind canonical? := by
    cases hget : fields.lookup name with
    | none =>
      have hnone : others.lookup name = none := by
        rw [Fields.lookup_eq_none_iff] at hget ⊢
        exact fun h => hget (hperm.mem_iff.2 h)
      rw [hnone]
    | some v =>
      obtain ⟨w, hw, c, hc, hwc⟩ := hmembers _ (Fields.mem_of_lookup hget)
      dsimp only at hw hc
      simp [hw, hc, hwc]
  refine ⟨fun name => (fields.lookup name).bind canonical?,
    canonicalMembers?_eq_some_iff.2 ⟨?_, rfl⟩,
    canonicalMembers?_eq_some_iff.2 ⟨?_, funext hforms⟩⟩
  · intro p hp
    obtain ⟨w, -, c, hc, -⟩ := hmembers p hp
    simp [hc]
  · rintro ⟨k, w⟩ hp
    have hk : k ∈ fields.map (·.1) := hperm.mem_iff.2 (List.mem_map.2 ⟨_, hp, rfl⟩)
    obtain ⟨q, hq, rfl⟩ := List.mem_map.1 hk
    obtain ⟨w', hw', c, -, hwc⟩ := hmembers q hq
    obtain rfl : w' = w := Option.some.inj (hw'.symm.trans (Fields.lookup_of_mem hothers hp))
    simp [hwc]

/-- Objects have a form in common if they have equally many members, and each of the first has one
of its name and form in the second. -/
theorem sameForm_object :
    SameForm (object fields) (object others) ↔
      fields.length = others.length ∧
        ∀ p ∈ fields, ∃ w, others.lookup p.1 = some w ∧ SameForm p.2 w := by
  have hforms : SameForm (object fields) (object others) ↔
      ∃ m, canonicalMembers? fields = some m ∧ canonicalMembers? others = some m := by
    simp only [SameForm, canonical?]
    cases canonicalMembers? fields <;> cases canonicalMembers? others <;> simp [eq_comm]
  rw [hforms]
  constructor
  · rintro ⟨m, hm, hm'⟩
    exact members_of_sameForms hfields hothers hm hm'
  · rintro ⟨hlength, hmembers⟩
    exact sameForms_of_members hfields hothers hlength hmembers

end Objects

/-- The form of a number is its value, and no other value has it. -/
theorem sameForm_number {v w : Json} (hv : v.canonical? = v.extent?.map .number) :
    SameForm v w ↔ (match v.extent?, w.extent? with
      | some x, some y => x == y
      | _, _ => false) = true := by
  unfold SameForm
  cases hx : v.extent? with
  | none => simp [hv, hx]
  | some x =>
    have hform : (∃ c, v.canonical? = some c ∧ w.canonical? = some c) ↔ w.extent? = some x := by
      simp only [hv, hx, Option.map_some, Option.some.injEq, exists_eq_left',
        canonical?_eq_number_iff]
    rw [hform]
    cases w.extent? with
    | none => simp
    | some y => simp only [Option.some.injEq, beq_iff_eq, eq_comm (a := x)]

/-- What is no number equals no number, and has the form of none. -/
theorem strictEquals_number {v w : Json} (hv : v.extent? = none)
    (hw : w.canonical? = w.extent?.map .number) (hno : v.strictEquals w = false) :
    v.strictEquals w = true ↔ SameForm v w := by
  have hform : ¬ SameForm v w := by
    rintro ⟨c, hvc, hwc⟩
    rw [hw] at hwc
    obtain ⟨e, -, rfl⟩ := Option.map_eq_some_iff.1 hwc
    rw [canonical?_eq_number_iff, hv] at hvc
    cases hvc
  simp [hno, hform]

mutual

/-- **Strict equality is equality of canonical forms.** -/
theorem strictEquals_iff : ∀ (v w : Json), v.wellFormed = true → w.wellFormed = true →
    (v.strictEquals w = true ↔ SameForm v w)
  | list as, list bs, hv, hw => by
    rw [strictEquals, strictEqualItems_iff as bs hv hw]
    simp only [SameForm, canonical?]
    cases canonicalItems? as <;> cases canonicalItems? bs <;> simp [eq_comm]
  | object fields, object others, hv, hw => by
    obtain ⟨hfields, hvalues⟩ := wellFormed_object.1 hv
    obtain ⟨hothers, hvalues'⟩ := wellFormed_object.1 hw
    rw [strictEquals, sameForm_object hfields hothers, Bool.and_eq_true, beq_iff_eq,
      strictEqualFields_iff fields others hvalues hvalues']
  | int n, w, _, _ => by
    rw [sameForm_number (by rw [canonical?])]
    cases w <;> rfl
  | float x, w, _, _ => by
    rw [sameForm_number (by rw [canonical?])]
    cases w <;> rfl
  | null, int n, _, _ | bool b, int n, _, _ | text s, int n, _, _ | list as, int n, _, _
  | object fields, int n, _, _ => strictEquals_number rfl (by rw [canonical?]) rfl
  | null, float x, _, _ | bool b, float x, _, _ | text s, float x, _, _ | list as, float x, _, _
  | object fields, float x, _, _ => strictEquals_number rfl (by rw [canonical?]) rfl
  | null, null, _, _ | null, bool b, _, _ | null, text s, _, _ | null, list as, _, _
  | null, object fields, _, _ => by simp [strictEquals, SameForm, canonical?, extent?]
  | bool b, bool b', _, _ => by simp [strictEquals, SameForm, canonical?, eq_comm (a := b)]
  | bool b, null, _, _ | bool b, text s, _, _ | bool b, list as, _, _
  | bool b, object fields, _, _ => by simp [strictEquals, SameForm, canonical?, extent?]
  | text s, text s', _, _ => by simp [strictEquals, SameForm, canonical?, eq_comm (a := s)]
  | text s, null, _, _ | text s, bool b, _, _ | text s, list as, _, _
  | text s, object fields, _, _ => by simp [strictEquals, SameForm, canonical?, extent?]
  | list as, null, _, _ | list as, bool b, _, _ | list as, text s, _, _
  | list as, object fields, _, _ => by simp [strictEquals, SameForm, canonical?, extent?]
  | object fields, null, _, _ | object fields, bool b, _, _ | object fields, text s, _, _
  | object fields, list as, _, _ => by simp [strictEquals, SameForm, canonical?, extent?]

theorem strictEqualItems_iff : ∀ (as bs : List Json), wellFormedItems as = true →
    wellFormedItems bs = true → (strictEqualItems as bs = true ↔
      ∃ cs, canonicalItems? as = some cs ∧ canonicalItems? bs = some cs)
  | [], [], _, _ => by simp [strictEqualItems, canonicalItems?]
  | [], b :: bs, _, _ => by
    cases hb : canonical? b <;> cases hbs : canonicalItems? bs <;>
      simp [strictEqualItems, canonicalItems?, hb, hbs]
  | a :: as, [], _, _ => by
    cases ha : canonical? a <;> cases has : canonicalItems? as <;>
      simp [strictEqualItems, canonicalItems?, ha, has]
  | a :: as, b :: bs, ha, hb => by
    simp only [wellFormedItems, Bool.and_eq_true] at ha hb
    rw [strictEqualItems, Bool.and_eq_true, strictEquals_iff a b ha.1 hb.1,
      strictEqualItems_iff as bs ha.2 hb.2]
    simp only [SameForm, canonicalItems?]
    cases canonical? a <;> cases canonicalItems? as <;> cases canonical? b <;>
      cases canonicalItems? bs <;> simp [eq_comm]

theorem strictEqualFields_iff : ∀ (fields others : Fields), wellFormedFields fields = true →
    wellFormedFields others = true → (strictEqualFields fields others = true ↔
      ∀ p ∈ fields, ∃ w, others.lookup p.1 = some w ∧ SameForm p.2 w)
  | [], _, _, _ => by simp [strictEqualFields]
  | (k, v) :: rest, others, hv, hw => by
    simp only [wellFormedFields, Bool.and_eq_true] at hv
    rw [strictEqualFields, Bool.and_eq_true, strictEqualFields_iff rest others hv.2 hw,
      List.forall_mem_cons]
    refine and_congr_left fun _ => ?_
    cases hget : List.lookup k others with
    | none => simp
    | some w =>
      have hwf : w.wellFormed = true := wellFormed_of_mem hw (Fields.mem_of_lookup hget)
      simp [strictEquals_iff v w hv.1 hwf]

end

theorem SameForm.symm {v w : Json} (h : SameForm v w) : SameForm w v := by
  obtain ⟨c, hv, hw⟩ := h
  exact ⟨c, hw, hv⟩

theorem SameForm.trans {u v w : Json} (h : SameForm u v) (h' : SameForm v w) : SameForm u w := by
  obtain ⟨c, hu, hv⟩ := h
  obtain ⟨d, hv', hw⟩ := h'
  obtain rfl : c = d := Option.some.inj (hv.symm.trans hv')
  exact ⟨c, hu, hw⟩

theorem strictEquals_symm {v w : Json} (hv : v.wellFormed = true) (hw : w.wellFormed = true)
    (h : v.strictEquals w = true) : w.strictEquals v = true := by
  rw [strictEquals_iff v w hv hw] at h
  rw [strictEquals_iff w v hw hv]
  exact h.symm

theorem strictEquals_trans {u v w : Json} (hu : u.wellFormed = true) (hv : v.wellFormed = true)
    (hw : w.wellFormed = true) (h : u.strictEquals v = true) (h' : v.strictEquals w = true) :
    u.strictEquals w = true := by
  rw [strictEquals_iff u v hu hv] at h
  rw [strictEquals_iff v w hv hw] at h'
  rw [strictEquals_iff u w hu hw]
  exact h.trans h'

/-- Strictly equal values are strictly equal to the same values. -/
theorem strictEquals_congr {v v' w w' : Json} (hv : v.wellFormed = true)
    (hv' : v'.wellFormed = true) (hw : w.wellFormed = true) (hw' : w'.wellFormed = true)
    (h : v.strictEquals v' = true) (h' : w.strictEquals w' = true) :
    v.strictEquals w = v'.strictEquals w' := by
  rw [Bool.eq_iff_iff]
  constructor
  · intro hvw
    have hback := strictEquals_symm hv hv' h
    exact strictEquals_trans hv' hw hw' (strictEquals_trans hv' hv hw hback hvw) h'
  · intro hvw
    have hback := strictEquals_symm hw hw' h'
    exact strictEquals_trans hv hw' hw (strictEquals_trans hv hv' hw' h hvw) hback

end Json

/-! ## Paths -/

/-- The form of the member with the given name. -/
def Canonical.member? : Canonical → String → Option Canonical
  | object member, name => member name
  | _, _ => none

/-- The form at a dotted path. -/
def Canonical.resolve (root : Canonical) (path : String) : Option Canonical :=
  (pathSegments path.toList).foldl
    (fun (c : Option Canonical) segment => c.bind (·.member? (String.ofList segment))) (some root)

namespace Json

/-- The form of a member is the member of the form. -/
theorem canonical?_member? {v : Json} {c : Canonical} (h : v.canonical? = some c) (name : String) :
    (v.member? name).map canonical? = (c.member? name).map some := by
  cases v with
  | object fields =>
    rw [canonical?] at h
    obtain ⟨m, hm, rfl⟩ := Option.map_eq_some_iff.1 h
    obtain ⟨hall, rfl⟩ := canonicalMembers?_eq_some_iff.1 hm
    simp only [member?, fields?, Option.bind_some, Canonical.member?]
    cases hget : List.lookup name fields with
    | none => rfl
    | some w =>
      obtain ⟨d, hd⟩ := Option.ne_none_iff_exists'.1 (hall _ (Fields.mem_of_lookup hget))
      simp [hd]
  | null | bool _ | text _ =>
    rw [canonical?] at h
    obtain rfl := Option.some.inj h
    rfl
  | list _ | int _ | float _ =>
    rw [canonical?] at h
    obtain ⟨d, -, rfl⟩ := Option.map_eq_some_iff.1 h
    rfl

/-- The form of what a path leads to is what it leads to in the form. -/
theorem canonical?_resolve {v : Json} {c : Canonical} (h : v.canonical? = some c) (path : String) :
    (v.resolve path).map canonical? = (c.resolve path).map some := by
  suffices hfold : ∀ (segments : List (List Char)) (found : Found) (form : Option Canonical),
      found.map canonical? = form.map some →
      (segments.foldl (fun (w : Found) s => w.bind (·.member? (String.ofList s))) found).map
          canonical? =
        (segments.foldl (fun (d : Option Canonical) s => d.bind (·.member? (String.ofList s)))
          form).map some from
    hfold (pathSegments path.toList) (some v) (some c) (by simp [h])
  intro segments
  induction segments with
  | nil => exact fun _ _ hform => hform
  | cons segment rest ih =>
    intro found form hform
    rw [List.foldl_cons, List.foldl_cons]
    apply ih
    cases found with
    | none =>
      cases form with
      | none => rfl
      | some d => simp at hform
    | some w =>
      cases form with
      | none => simp at hform
      | some d =>
        have hd : w.canonical? = some d := by simpa using hform
        exact canonical?_member? hd (String.ofList segment)

theorem wellFormed_member? {v w : Json} (hv : v.wellFormed = true) {name : String}
    (h : v.member? name = some w) : w.wellFormed = true := by
  cases v with
  | object fields =>
    exact wellFormed_of_mem (wellFormed_object.1 hv).2 (Fields.mem_of_lookup h)
  | _ => simp [member?, fields?] at h

theorem wellFormed_resolve {v w : Json} (hv : v.wellFormed = true) {path : String}
    (h : v.resolve path = some w) : w.wellFormed = true := by
  suffices hfold : ∀ (segments : List (List Char)) (found : Found),
      (∀ u, found = some u → u.wellFormed = true) → ∀ w,
      segments.foldl (fun (u : Found) s => u.bind (·.member? (String.ofList s))) found = some w →
      w.wellFormed = true from
    hfold (pathSegments path.toList) (some v) (by simp [hv]) w h
  intro segments
  induction segments with
  | nil => exact fun _ hfound w hw => hfound w hw
  | cons segment rest ih =>
    intro found hfound
    rw [List.foldl_cons]
    apply ih
    intro u hu
    obtain ⟨parent, hparent, hmember⟩ := Option.bind_eq_some_iff.1 hu
    exact wellFormed_member? (hfound parent hparent) hmember

end Json

/-- Nothing on either side, or strictly equal values. -/
inductive Found.Alike : Found → Found → Prop
  | absent : Alike none none
  | present {v w : Json} (h : v.strictEquals w = true) : Alike (some v) (some w)

/-- In strictly equal values, every path leads nowhere or to strictly equal values. -/
theorem Json.resolve_alike {v w : Json} (hv : v.wellFormed = true) (hw : w.wellFormed = true)
    (h : v.strictEquals w = true) (path : String) :
    Found.Alike (v.resolve path) (w.resolve path) := by
  obtain ⟨c, hvc, hwc⟩ := (strictEquals_iff v w hv hw).1 h
  have hleft := canonical?_resolve hvc path
  have hright := canonical?_resolve hwc path
  cases hform : c.resolve path with
  | none =>
    rw [hform, Option.map_none, Option.map_eq_none_iff] at hleft hright
    rw [hleft, hright]
    exact .absent
  | some d =>
    rw [hform, Option.map_some] at hleft hright
    obtain ⟨x, hx, hxd⟩ := Option.map_eq_some_iff.1 hleft
    obtain ⟨y, hy, hyd⟩ := Option.map_eq_some_iff.1 hright
    rw [hx, hy]
    have hsame : SameForm x y := ⟨d, hxd, hyd⟩
    exact .present ((strictEquals_iff x y (wellFormed_resolve hv hx)
      (wellFormed_resolve hw hy)).2 hsame)

end BranchChoice
