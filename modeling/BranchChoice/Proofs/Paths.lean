import BranchChoice.Comparison
import Mathlib.Data.List.Basic
import Mathlib.Data.String.Basic

/-!
# Paths

A path is a chain of names with dots between them, and every text is the path of exactly one chain
of names without dots: the empty text has one empty name, and a dot at an end or beside another one
has an empty name next to it (`eq_pathNames_iff`).  What a path leads to is found by going from object
to object along these names (`resolve_eq_some_iff`), and so in two goes as well as in one
(`resolve_append`).

Nothing else is ever looked at: there is nothing inside a list, a text, a number or null, and all
members whose names have a dot in them might as well not be there (`resolve_undotted`).
-/

namespace BranchChoice

/-! ## Names between dots -/

theorem pathSegments_eq_splitOn (s : List Char) : pathSegments s = s.splitOn '.' := by
  induction s with
  | nil => rfl
  | cons c rest ih =>
    rw [pathSegments, ih, List.splitOn, List.splitOn, List.splitOnP_cons_eq_if_modifyHead]
    split
    · rfl
    · cases hsegments : rest.splitOnP (· == '.') with
      | nil => exact absurd hsegments (List.splitOnP_ne_nil _ _)
      | cons segment more => rfl

theorem pathSegments_ne_nil (s : List Char) : pathSegments s ≠ [] := by
  rw [pathSegments_eq_splitOn]
  exact List.splitOnP_ne_nil _ _

theorem not_mem_of_mem_pathSegments {s segment : List Char} (h : segment ∈ pathSegments s) :
    '.' ∉ segment := by
  induction s generalizing segment with
  | nil =>
    obtain rfl := List.mem_singleton.1 h
    exact List.not_mem_nil
  | cons c rest ih =>
    rw [pathSegments] at h
    split at h
    · rcases List.mem_cons.1 h with rfl | hrest
      · exact List.not_mem_nil
      · exact ih hrest
    · next hc =>
      have hne : '.' ≠ c := fun heq => hc (beq_iff_eq.2 heq.symm)
      cases hsegments : pathSegments rest with
      | nil => exact absurd hsegments (pathSegments_ne_nil rest)
      | cons first more =>
        rw [hsegments] at h ih
        rcases List.mem_cons.1 h with rfl | hmore
        · exact List.not_mem_cons_of_ne_of_not_mem hne (ih List.mem_cons_self)
        · exact ih (List.mem_cons_of_mem _ hmore)

/-- The names that a path has between its dots. -/
def pathNames (path : String) : List String :=
  (pathSegments path.toList).map String.ofList

/-- Whether a name can stand between dots. -/
def IsPlainName (name : String) : Prop :=
  '.' ∉ name.toList

instance (name : String) : Decidable (IsPlainName name) :=
  inferInstanceAs (Decidable (¬ _))

theorem pathNames_append (p q : String) :
    pathNames (p ++ "." ++ q) = pathNames p ++ pathNames q := by
  have hchars : (p ++ "." ++ q).toList = p.toList ++ '.' :: q.toList := by simp
  rw [pathNames, pathNames, pathNames, hchars, pathSegments_eq_splitOn, pathSegments_eq_splitOn,
    pathSegments_eq_splitOn, List.splitOn, List.splitOn, List.splitOn,
    List.splitOnP_append_cons _ _ (by simp), List.map_append]

theorem pathNames_intercalate {names : List String} (hne : names ≠ [])
    (hplain : ∀ name ∈ names, IsPlainName name) : pathNames (".".intercalate names) = names := by
  have hchars : (".".intercalate names).toList = ['.'].intercalate (names.map String.toList) :=
    String.toList_intercalate
  have hsplit : (['.'].intercalate (names.map String.toList)).splitOn '.' =
      names.map String.toList := by
    refine List.splitOn_intercalate '.' (fun segment hsegment => ?_) (by simpa using hne)
    obtain ⟨name, hname, rfl⟩ := List.mem_map.1 hsegment
    exact hplain name hname
  rw [pathNames, hchars, pathSegments_eq_splitOn, hsplit, List.map_map]
  simp [Function.comp_def]

theorem intercalate_pathNames (path : String) : ".".intercalate (pathNames path) = path := by
  have hmap : (pathNames path).map String.toList = path.toList.splitOn '.' := by
    rw [pathNames, List.map_map, pathSegments_eq_splitOn]
    simp [Function.comp_def]
  rw [← String.toList_inj, String.toList_intercalate, hmap]
  exact List.intercalate_splitOn '.'

theorem pathNames_ne_nil (path : String) : pathNames path ≠ [] :=
  mt List.map_eq_nil_iff.1 (pathSegments_ne_nil _)

theorem isPlainName_of_mem_pathNames {path name : String} (h : name ∈ pathNames path) :
    IsPlainName name := by
  obtain ⟨segment, hsegment, rfl⟩ := List.mem_map.1 h
  rw [IsPlainName, String.toList_ofList]
  exact not_mem_of_mem_pathSegments hsegment

/-- **Every text is a path**, and its names are the only plain ones that have it as their path. -/
theorem eq_pathNames_iff {path : String} {names : List String} :
    names = pathNames path ↔
      names ≠ [] ∧ (∀ name ∈ names, IsPlainName name) ∧ ".".intercalate names = path := by
  constructor
  · rintro rfl
    exact ⟨pathNames_ne_nil path, fun _ => isPlainName_of_mem_pathNames, intercalate_pathNames path⟩
  · rintro ⟨hne, hplain, rfl⟩
    exact (pathNames_intercalate hne hplain).symm

/-! ## Going along names -/

namespace Json

/-- The first value leads to the last along the names: it is an object that has a member of the
first name, the value of this one is an object that has a member of the second name, and so on. -/
inductive Leads : Json → List String → Json → Prop
  | here (v : Json) : Leads v [] v
  | member {fields : Fields} {name : String} {names : List String} {v w : Json}
      (hmember : fields.lookup name = some v) (hrest : Leads v names w) :
      Leads (.object fields) (name :: names) w

/-- What names lead to, member by member. -/
def follow (found : Found) (names : List String) : Found :=
  names.foldl (fun (v : Found) name => v.bind (·.member? name)) found

theorem resolve_eq_follow (root : Json) (path : String) :
    root.resolve path = follow (some root) (pathNames path) := by
  rw [resolve, follow, pathNames, List.foldl_map]

theorem follow_none (names : List String) : follow none names = none := by
  induction names with
  | nil => rfl
  | cons name rest ih => exact ih

theorem follow_append (found : Found) (first second : List String) :
    follow found (first ++ second) = follow (follow found first) second :=
  List.foldl_append

/-- What is followed from a value is nothing if the value is not there. -/
theorem follow_eq_bind (found : Found) (names : List String) :
    follow found names = found.bind fun v => follow (some v) names := by
  cases found with
  | none => exact follow_none names
  | some v => rfl

theorem follow_cons (root : Json) (name : String) (names : List String) :
    follow (some root) (name :: names) =
      (root.member? name).bind fun v => follow (some v) names :=
  follow_eq_bind _ names

theorem member?_eq_some_iff {root v : Json} {name : String} :
    root.member? name = some v ↔
      ∃ fields : Fields, root = .object fields ∧ fields.lookup name = some v := by
  cases root <;> simp [member?, fields?]

theorem follow_eq_some_iff {root w : Json} {names : List String} :
    follow (some root) names = some w ↔ root.Leads names w := by
  induction names generalizing root with
  | nil =>
    constructor
    · intro h
      obtain rfl := Option.some.inj h
      exact .here root
    · rintro ⟨⟩
      rfl
  | cons name rest ih =>
    rw [follow_cons, Option.bind_eq_some_iff]
    constructor
    · rintro ⟨v, hmember, hrest⟩
      obtain ⟨fields, rfl, hget⟩ := member?_eq_some_iff.1 hmember
      exact .member hget (ih.1 hrest)
    · rintro (_ | ⟨hget, hrest⟩)
      exact ⟨_, member?_eq_some_iff.2 ⟨_, rfl, hget⟩, ih.2 hrest⟩

/-! ## Paths in two parts -/

theorem resolve_append (root : Json) (p q : String) :
    root.resolve (p ++ "." ++ q) = (root.resolve p).bind (·.resolve q) := by
  rw [resolve_eq_follow, pathNames_append, follow_append, ← resolve_eq_follow, follow_eq_bind]
  simp only [← resolve_eq_follow]

/-- There is nothing inside a value that is no object. -/
theorem resolve_of_not_object {v : Json} (h : v.fields? = none) (path : String) :
    v.resolve path = none := by
  rw [resolve_eq_follow]
  cases hnames : pathNames path with
  | nil => exact absurd hnames (pathNames_ne_nil path)
  | cons name rest => rw [follow_cons, member?, h, Option.bind_none, Option.bind_none]

/-! ## Names with dots -/

mutual

/-- The value without the members whose names have dots, at every depth to which objects go. -/
def undotted : Json → Json
  | object fields => object (undottedFields fields)
  | v => v

/-- The members whose names have no dots, each value `undotted`. -/
def undottedFields : List (String × Json) → List (String × Json)
  | [] => []
  | (name, v) :: rest =>
    if IsPlainName name then (name, v.undotted) :: undottedFields rest else undottedFields rest

end

theorem lookup_undottedFields {fields : Fields} {name : String} (hname : IsPlainName name) :
    List.lookup name (undottedFields fields) = (fields.lookup name).map undotted := by
  induction fields with
  | nil => rfl
  | cons field rest ih =>
    obtain ⟨other, v⟩ := field
    by_cases hother : IsPlainName other
    · rw [undottedFields, if_pos hother, List.lookup_cons, List.lookup_cons]
      cases name == other with
      | true => rfl
      | false => exact ih
    · have hne : (name == other) = false := beq_false_of_ne fun heq => hother (heq ▸ hname)
      rw [undottedFields, if_neg hother, List.lookup_cons, hne, ih]

theorem member?_undotted (v : Json) {name : String} (hname : IsPlainName name) :
    v.undotted.member? name = (v.member? name).map undotted := by
  cases v with
  | object fields => exact lookup_undottedFields hname
  | _ => rfl

theorem follow_undotted {names : List String} (hplain : ∀ name ∈ names, IsPlainName name)
    (found : Found) : follow (found.map undotted) names = (follow found names).map undotted := by
  induction names generalizing found with
  | nil => rfl
  | cons name rest ih =>
    have hmember : (found.map undotted).bind (·.member? name) =
        (found.bind (·.member? name)).map undotted := by
      cases found with
      | none => rfl
      | some v => exact member?_undotted v (hplain name List.mem_cons_self)
    calc follow (found.map undotted) (name :: rest)
        = follow ((found.bind (·.member? name)).map undotted) rest := congrArg (follow · rest) hmember
      _ = (follow (found.bind (·.member? name)) rest).map undotted :=
          ih (fun other hother => hplain other (List.mem_cons_of_mem _ hother)) _

theorem resolve_undotted (root : Json) (path : String) :
    root.undotted.resolve path = (root.resolve path).map undotted := by
  rw [resolve_eq_follow, resolve_eq_follow]
  exact follow_undotted (fun _ => isPlainName_of_mem_pathNames) (some root)

/-! ## The laws of paths -/

/-- **The laws of paths.**  A path in two parts leads to what the second part leads to from where
the first one does.  The path of a chain of names without dots leads to a value exactly if the
value is reached by going from object to object along these names, and to nothing if none is; and
a value that any path leads to is reached in this way.  So nothing is ever found in a value that is
no object, such as a list or null, and a path leads to the same whether or not there are members
whose names have dots. -/
theorem resolve_laws (root : Json) :
    (∀ p q, root.resolve (p ++ "." ++ q) = (root.resolve p).bind (·.resolve q)) ∧
    (∀ names : List String, names ≠ [] → (∀ name ∈ names, '.' ∉ name.toList) →
      (∀ v, root.resolve (".".intercalate names) = some v ↔ root.Leads names v) ∧
      (root.resolve (".".intercalate names) = none ↔ ¬ ∃ v, root.Leads names v)) ∧
    (∀ path v, root.resolve path = some v →
      ∃ names ≠ [], (∀ name ∈ names, '.' ∉ name.toList) ∧ ".".intercalate names = path ∧
        root.Leads names v) ∧
    (∀ p q v, root.resolve p = some v → v.fields? = none →
      root.resolve (p ++ "." ++ q) = none) ∧
    (∀ path, root.undotted.resolve path = (root.resolve path).map undotted) := by
  have hleads (path : String) (v : Json) :
      root.resolve path = some v ↔ root.Leads (pathNames path) v := by
    rw [resolve_eq_follow, follow_eq_some_iff]
  refine ⟨resolve_append root, fun names hne hplain => ?_, fun path v h => ?_, ?_,
    resolve_undotted root⟩
  · have hnames := pathNames_intercalate hne hplain
    have hvalue (v : Json) : root.resolve (".".intercalate names) = some v ↔ root.Leads names v := by
      rw [hleads, hnames]
    refine ⟨hvalue, ?_⟩
    simp only [← hvalue, ← Option.isSome_iff_exists, Option.not_isSome_iff_eq_none]
  · obtain ⟨hne, hplain, hpath⟩ := eq_pathNames_iff.1 (rfl : pathNames path = pathNames path)
    exact ⟨pathNames path, hne, hplain, hpath, (hleads path v).1 h⟩
  · intro p q v h hv
    rw [resolve_append, h, Option.bind_some, resolve_of_not_object hv]

/-- Two dots are the path of three empty names, which lead to null here; nothing is found in the
list that one dot leads to, and a member named by a dot is not what the dot leads to. -/
theorem resolve_laws_dots :
    let inner : Json := .object [("", .object [("", .null)])]
    let root : Json := .object [(".", .int 1), ("", .object [("", .list [inner])]), ("x", inner)]
    (["x", "", ""] ≠ [] ∧ ∀ name ∈ ["x", "", ""], '.' ∉ name.toList) ∧
      root.Leads ["x", "", ""] .null ∧ root.resolve "x.." = some .null ∧
      root.resolve "." = some (.list [inner]) ∧ root.resolve "...0" = none := by
  intro inner root
  have hlaws := resolve_laws root
  have hempty : Json.Leads root ["", ""] (.list [inner]) := .member rfl (.member rfl (.here _))
  have hdots : Json.Leads root ["x", "", ""] .null :=
    .member rfl (.member rfl (.member rfl (.here _)))
  have hlist : root.resolve "." = some (.list [inner]) :=
    ((hlaws.2.1 ["", ""] (by decide) (by decide)).1 _).2 hempty
  have hplain : ∀ name ∈ ["x", "", ""], '.' ∉ name.toList := by decide
  exact ⟨⟨by decide, hplain⟩, hdots, ((hlaws.2.1 _ (by decide) hplain).1 .null).2 hdots, hlist,
    hlaws.2.2.2.1 "." ".0" _ hlist rfl⟩

end Json

end BranchChoice
