import BranchChoice.Proofs.RequestOrder
import Mathlib.Data.List.Basic

/-!
# Queries read back

The parameters of a query are written in the form encoding.  Whoever receives the address parts it
at the first question mark, the query at its ampersands, and each piece at its first equals sign,
and then decodes the names and the values.  This is `parametersOf?`, which is written down from the
side of the receiver and refuses whatever is no form.

* `readForm?_formEncode`: a text that is encoded is decoded as itself, byte by byte.
* `readQuery?_encodeQuery`: no mark that parts a query is left in an encoded text, so a query is
  parted where it was put together.
* `isQueryFree_normalizeAddress`: no mark that begins a query or a fragment comes into an address.
* `listings_ask`: what the listings of branches and actions ask for.
-/

namespace BranchChoice

namespace Rest

/-! ## Reading a form -/

/-- The bytes that a text of a form stands for: a plus sign is a space, two hexadecimal digits after
a percent sign are a byte, and any other character is itself. -/
def formBytes? : List Char → Option (List UInt8)
  | [] => some []
  | '+' :: rest => (formBytes? rest).map (32 :: ·)
  | '%' :: a :: b :: rest => do
    let high ← Text.hexValue? a
    let low ← Text.hexValue? b
    (formBytes? rest).map (UInt8.ofNat (high * 16 + low) :: ·)
  | c :: rest =>
    if c == '%' then none else (formBytes? rest).map (String.utf8EncodeChar c ++ ·)

/-- The text that a text of a form stands for, if its bytes are a text. -/
def readForm? (s : List Char) : Option String :=
  (formBytes? s).bind fun bytes => (Text.utf8Decode bytes).toOption.map String.ofList

/-- The name and the value of a parameter, parted at the first equals sign. -/
def readParameter? (s : List Char) : Option (String × String) := do
  let name ← readForm? (s.takeWhile (· != '='))
  let value ← readForm? ((s.dropWhile (· != '=')).drop 1)
  return (name, value)

/-- The parameters of a query, parted at the ampersands. -/
def readQuery? (query : List Char) : Option Parameters :=
  (query.splitOn '&').mapM readParameter?

/-- The query of an address: what follows the first question mark, up to the first number sign. -/
def queryOf? (url : List Char) : Option (List Char) :=
  match (url.takeWhile (· != '#')).dropWhile (· != '?') with
  | [] => none
  | _ :: query => some query

/-- The parameters that an address asks for. -/
def parametersOf? (url : String) : Option Parameters :=
  (queryOf? url.toList).bind readQuery?

/-! ## Escapes -/

theorem hexValue?_upperHexDigit : ∀ d < 16, Text.hexValue? (Text.upperHexDigit d) = some d := by
  decide

/-- An escape is read as its byte. -/
theorem formBytes?_escapeByte (b : UInt8) (rest : List Char) :
    formBytes? (escapeByte b ++ rest) = (formBytes? rest).map (b :: ·) := by
  have hb : b.toNat < 256 := b.toNat_lt_size
  have hhigh := hexValue?_upperHexDigit (b.toNat / 16) (by omega)
  have hlow := hexValue?_upperHexDigit (b.toNat % 16) (by omega)
  have hvalue : UInt8.ofNat (b.toNat / 16 * 16 + b.toNat % 16) = b := by
    rw [Nat.div_add_mod', UInt8.ofNat_toNat]
  rw [escapeByte, List.cons_append, List.cons_append, List.cons_append, List.nil_append,
    formBytes?, hhigh, hlow]
  simp only [Option.bind_eq_bind, Option.bind_some, hvalue]

theorem formBytes?_escapes (bytes : List UInt8) (rest : List Char) :
    formBytes? (bytes.flatMap escapeByte ++ rest) = (formBytes? rest).map (bytes ++ ·) := by
  induction bytes with
  | nil => simp
  | cons b bytes ih =>
    rw [List.flatMap_cons, List.append_assoc, formBytes?_escapeByte, ih, Option.map_map]
    rfl

/-- A character that stands for itself is none of those that mean something in a form. -/
theorem IsUnreserved.ne {c d : Char} (h : isUnreserved c = true)
    (hd : d ∈ ['+', '%', '&', '=', '#', '?']) : c ≠ d := by
  rintro rfl
  simp only [List.mem_cons, List.not_mem_nil, or_false] at hd
  rcases hd with rfl | rfl | rfl | rfl | rfl | rfl <;> exact absurd h (by decide)

theorem formBytes?_plain {c : Char} (hplus : c ≠ '+') (hpercent : c ≠ '%') (rest : List Char) :
    formBytes? (c :: rest) = (formBytes? rest).map (String.utf8EncodeChar c ++ ·) := by
  have hno : (c == '%') = false := by simpa using hpercent
  rw [formBytes?, if_neg (by simp [hno])] <;> simp_all

/-- **A character of a form is read as the bytes of the character that it was written for.** -/
theorem formBytes?_formChar (c : Char) (rest : List Char) :
    formBytes? (formChar c ++ rest) = (formBytes? rest).map (String.utf8EncodeChar c ++ ·) := by
  unfold formChar
  split_ifs with hplain hspace
  · have hmark {d : Char} (hd : d ∈ ['+', '%', '&', '=', '#', '?']) : c ≠ d :=
      IsUnreserved.ne hplain hd
    exact formBytes?_plain (hmark (by simp)) (hmark (by simp)) rest
  · obtain rfl := eq_of_beq hspace
    rfl
  · have hescape : escapeChar c = (String.utf8EncodeChar c).flatMap escapeByte := by
      rw [escapeChar, Text.utf8Encode, List.flatMap_singleton]
    rw [hescape, formBytes?_escapes]

theorem formBytes?_formEncode (chars : List Char) :
    formBytes? (chars.flatMap formChar) = some (Text.utf8Encode chars) := by
  induction chars with
  | nil => rfl
  | cons c chars ih =>
    rw [List.flatMap_cons, formBytes?_formChar, ih]
    rfl

/-- **A text that is written in a form is read as itself.** -/
theorem readForm?_formEncode (s : String) : readForm? (formEncode s) = some s := by
  rw [readForm?, formEncode, formBytes?_formEncode, Option.bind_some, Text.utf8Decode_utf8Encode]
  exact congrArg some String.ofList_toList

/-! ## Marks -/

theorem isUnreserved_upperHexDigit : ∀ d < 16, isUnreserved (Text.upperHexDigit d) = true := by
  decide

theorem mem_escapeChar {c d : Char} (h : d ∈ escapeChar c) : d = '%' ∨ isUnreserved d = true := by
  obtain ⟨b, -, hb⟩ := List.mem_flatMap.1 h
  have hlt : b.toNat < 256 := b.toNat_lt_size
  simp only [escapeByte, List.mem_cons, List.not_mem_nil, or_false] at hb
  rcases hb with rfl | rfl | rfl
  · exact .inl rfl
  · exact .inr (isUnreserved_upperHexDigit _ (by omega))
  · exact .inr (isUnreserved_upperHexDigit _ (by omega))

/-- No mark that parts an address or a query is left in a text of a form. -/
theorem not_mem_formEncode {d : Char} (hd : d ∈ ['&', '=', '#', '?']) (s : String) :
    d ∉ formEncode s := by
  intro hmem
  obtain ⟨c, -, hc⟩ := List.mem_flatMap.1 hmem
  have hmark : d ∈ ['+', '%', '&', '=', '#', '?'] := by simp_all
  have hno : ¬ isUnreserved d = true := fun h => IsUnreserved.ne h hmark rfl
  unfold formChar at hc
  split_ifs at hc with hplain
  · obtain rfl := List.mem_singleton.1 hc
    exact hno hplain
  · obtain rfl := List.mem_singleton.1 hc
    exact absurd hd (by decide)
  · rcases mem_escapeChar hc with rfl | h
    · exact absurd hd (by decide)
    · exact hno h

/-! ## Queries -/

/-- What is written up to a mark is taken up to the mark. -/
theorem takeWhile_before {d : Char} {before : List Char} (h : d ∉ before) (after : List Char) :
    (before ++ d :: after).takeWhile (· != d) = before ∧
      (before ++ d :: after).dropWhile (· != d) = d :: after := by
  have hbefore : ∀ c ∈ before, (c != d) = true := by
    intro c hc
    simp only [bne_iff_ne, ne_eq]
    rintro rfl
    exact h hc
  constructor
  · rw [List.takeWhile_append_of_pos hbefore, List.takeWhile_cons_of_neg (by simp),
      List.append_nil]
  · rw [List.dropWhile_append_of_pos hbefore, List.dropWhile_cons_of_neg (by simp)]

theorem readParameter?_encodeParameter (p : String × String) :
    readParameter? (encodeParameter p) = some p := by
  obtain ⟨hname, hvalue⟩ :=
    takeWhile_before (not_mem_formEncode (d := '=') (by simp) p.1) (formEncode p.2)
  rw [readParameter?, encodeParameter, hname, hvalue, List.drop_one, List.tail_cons,
    readForm?_formEncode, readForm?_formEncode]
  rfl

theorem encodeQuery_eq : ∀ parameters : Parameters,
    encodeQuery parameters = ['&'].intercalate (parameters.map encodeParameter)
  | [] => rfl
  | [p] => by simp [encodeQuery]
  | p :: q :: rest => by
    rw [encodeQuery, encodeQuery_eq (q :: rest)]
    · simp [List.intercalate]
    · simp

theorem mapM_readParameter? (parameters : Parameters) :
    (parameters.map encodeParameter).mapM readParameter? = some parameters := by
  induction parameters with
  | nil => rfl
  | cons p rest ih =>
    rw [List.map_cons, List.mapM_cons, readParameter?_encodeParameter, ih]
    rfl

/-- A mark that parts addresses or queries stands in a parameter only between name and value. -/
theorem not_mem_encodeParameter {d : Char} (hd : d ∈ ['&', '#', '?']) (p : String × String) :
    d ∉ encodeParameter p := by
  intro hmem
  have hmark : d ∈ ['&', '=', '#', '?'] := by
    simp only [List.mem_cons, List.not_mem_nil, or_false] at hd ⊢
    tauto
  rcases List.mem_append.1 hmem with h | h
  · exact not_mem_formEncode hmark p.1 h
  · rcases List.mem_cons.1 h with rfl | h
    · exact absurd hd (by decide)
    · exact not_mem_formEncode hmark p.2 h

theorem not_mem_encodeQuery {d : Char} (hd : d ∈ ['#', '?']) : ∀ parameters : Parameters,
    d ∉ encodeQuery parameters
  | [] => List.not_mem_nil
  | [p] => not_mem_encodeParameter (List.mem_cons_of_mem _ hd) p
  | p :: q :: rest => by
    rw [encodeQuery]
    · intro hmem
      rcases List.mem_append.1 hmem with h | h
      · exact not_mem_encodeParameter (List.mem_cons_of_mem _ hd) p h
      · rcases List.mem_cons.1 h with rfl | h
        · exact absurd hd (by decide)
        · exact not_mem_encodeQuery hd (q :: rest) h
    · simp

/-- **The parameters of a query are read back**, if there are any. -/
theorem readQuery?_encodeQuery {parameters : Parameters} (h : parameters ≠ []) :
    readQuery? (encodeQuery parameters) = some parameters := by
  have hparts : ∀ part ∈ parameters.map encodeParameter, '&' ∉ part := by
    intro part hpart
    obtain ⟨p, -, rfl⟩ := List.mem_map.1 hpart
    exact not_mem_encodeParameter (by simp) p
  rw [readQuery?, encodeQuery_eq, List.splitOn_intercalate '&' hparts (by simpa using h),
    mapM_readParameter?]

/-! ## Addresses -/

/-- No query and no fragment begins in a text. -/
def IsQueryFree (s : List Char) : Prop :=
  ∀ c ∈ s, c ≠ '?' ∧ c ≠ '#'

instance (s : List Char) : Decidable (IsQueryFree s) :=
  List.decidableBAll (fun c => c ≠ '?' ∧ c ≠ '#') s

theorem IsQueryFree.of_subset {s t : List Char} (h : IsQueryFree s) (hsub : t ⊆ s) :
    IsQueryFree t :=
  fun c hc => h c (hsub hc)

theorem IsQueryFree.append {s t : List Char} (hs : IsQueryFree s) (ht : IsQueryFree t) :
    IsQueryFree (s ++ t) := by
  intro c hc
  rcases List.mem_append.1 hc with h | h
  · exact hs c h
  · exact ht c h

/-- A character in lower case is itself, or a letter and beyond all marks. -/
theorem toLower_eq_or (c : Char) : c.toLower = c ∨ 97 ≤ c.toLower.toNat := by
  unfold Char.toLower
  split_ifs with h
  · have hlow : 65 ≤ c.val.toNat := h.1
    have hhigh : c.val.toNat ≤ 90 := h.2
    have hsum : (c.val + 32).toNat = c.val.toNat + 32 := by
      rw [UInt32.toNat_add]
      exact Nat.mod_eq_of_lt (Nat.lt_of_le_of_lt (Nat.add_le_add_right hhigh 32) (by decide))
    refine .inr ?_
    change 97 ≤ (c.val + 32).toNat
    omega
  · exact .inl rfl

theorem IsQueryFree.map_toLower {s : List Char} (h : IsQueryFree s) :
    IsQueryFree (s.map Char.toLower) := by
  intro c hc
  obtain ⟨d, hd, rfl⟩ := List.mem_map.1 hc
  rcases toLower_eq_or d with heq | hletter
  · rw [heq]
    exact h d hd
  · constructor <;>
    · intro hmark
      rw [hmark] at hletter
      exact absurd hletter (by decide)

theorem isQueryFree_of_isUnreserved {c : Char} (h : isUnreserved c = true) : c ≠ '?' ∧ c ≠ '#' :=
  ⟨IsUnreserved.ne h (by simp), IsUnreserved.ne h (by simp)⟩

/-- Whatever is escaped in a path, no mark is left. -/
theorem isQueryFree_encodePath (path : List Char) : IsQueryFree (encodePath path) := by
  induction path with
  | nil => exact fun _ h => nomatch h
  | cons c rest ih =>
    refine IsQueryFree.append ?_ ih
    intro d hd
    split_ifs at hd with hplain
    · obtain rfl := List.mem_singleton.1 hd
      constructor <;>
      · rintro rfl
        exact absurd hplain (by decide)
    · rcases mem_escapeChar hd with rfl | h
      · decide
      · exact isQueryFree_of_isUnreserved h

theorem isQueryFree_dropDefaultPort (scheme : List Char) {host : List Char}
    (h : IsQueryFree host) : IsQueryFree (dropDefaultPort scheme host) := by
  unfold dropDefaultPort
  exact iteInduction (fun _ => h.of_subset (List.take_subset _ _)) fun _ => h

/-- No mark comes into an address that is brought into its form. -/
theorem isQueryFree_normalizeAddress {address : List Char} (h : IsQueryFree address) :
    IsQueryFree (normalizeAddress address) := by
  have hscheme : IsQueryFree (address.takeWhile (· != ':')) :=
    h.of_subset (List.takeWhile_subset _)
  have hrest : IsQueryFree ((address.dropWhile (· != ':')).drop 3) :=
    h.of_subset (List.Subset.trans (List.drop_subset _ _) (List.dropWhile_subset _))
  have hhost : IsQueryFree (((address.dropWhile (· != ':')).drop 3).takeWhile (· != '/')) :=
    hrest.of_subset (List.takeWhile_subset _)
  have hmark : IsQueryFree "://".toList := by decide
  have hport (scheme : List Char) := isQueryFree_dropDefaultPort scheme hhost.map_toLower
  exact ((hscheme.map_toLower.append hmark).append (hport _)).append (isQueryFree_encodePath _)

/-- The settings have a base to make addresses from, in which no query and no fragment begins, and
neither does one in the name of a table. -/
structure HasQueryFreeBase (settings : Settings) (role : Role) : Prop where
  base : ∃ base, settings.baseUrl = some base ∧ base ≠ "" ∧ IsQueryFree base.toList
  table : IsQueryFree (tableOf settings role).toList

section Settings

variable {settings : Settings} {role : Role}

theorem HasQueryFreeBase.hasBase (h : HasQueryFreeBase settings role) : HasBase settings := by
  obtain ⟨base, hbase, hne, -⟩ := h.base
  exact ⟨base, hbase, hne⟩

theorem isQueryFree_addressOf (h : HasQueryFreeBase settings role) {address : List Char}
    (haddress : addressOf settings role = some address) : IsQueryFree address := by
  obtain ⟨base, hbase, hne, hfree⟩ := h.base
  have hempty : base.isEmpty = false := by simpa using hne
  have hmiddle : IsQueryFree "/rest/v1/".toList := by decide
  have hstem : IsQueryFree (base.toList.reverse.dropWhile (· == '/')).reverse := by
    refine hfree.of_subset fun c hc => ?_
    exact List.mem_reverse.1 (List.dropWhile_subset _ (List.mem_reverse.1 hc))
  rw [addressOf, hbase] at haddress
  dsimp only at haddress
  rw [hempty] at haddress
  obtain rfl := Option.some.inj haddress
  exact isQueryFree_normalizeAddress ((hstem.append hmiddle).append h.table)

/-! ## What a listing asks for -/

/-- A request asks at an address for what some parameters say, and for nothing else. -/
structure Asks (address : List Char) (parameters : Parameters) (request : HttpRequest) :
    Prop where
  method : request.method = .get
  /-- What stands before the query is the address. -/
  resource : request.url.toList.takeWhile (· != '?') = address
  /-- The query, parted and decoded, is the parameters. -/
  query : parametersOf? request.url = some parameters
  /-- Nothing follows the query. -/
  noFragment : '#' ∉ request.url.toList

/-- **The request of a listing asks for its parameters.** -/
theorem fetchRequest?_asks (h : HasQueryFreeBase settings role) (filters : Parameters) :
    ∃ address request, addressOf settings role = some address ∧
      fetchRequest? settings role filters = some request ∧
      Asks address (("select", "*") :: filters) request := by
  obtain ⟨address, haddress⟩ := exists_addressOf h.hasBase role
  have hfree := isQueryFree_addressOf h haddress
  obtain ⟨hbefore, hafter⟩ := takeWhile_before (fun hmem => (hfree '?' hmem).1 rfl)
    (encodeQuery (("select", "*") :: filters))
  have hno : '#' ∉ address ++ '?' :: encodeQuery (("select", "*") :: filters) := by
    rw [List.mem_append, List.mem_cons]
    rintro (hmem | hmem | hmem)
    · exact (hfree '#' hmem).2 rfl
    · exact absurd hmem (by decide)
    · exact not_mem_encodeQuery (by simp) _ hmem
  have hwhole : (address ++ '?' :: encodeQuery (("select", "*") :: filters)).takeWhile (· != '#') =
      address ++ '?' :: encodeQuery (("select", "*") :: filters) := by
    refine List.takeWhile_eq_self_iff.2 fun c hc => ?_
    simp only [bne_iff_ne, ne_eq]
    rintro rfl
    exact hno hc
  refine ⟨address, _, haddress, by rw [fetchRequest?, haddress]; rfl, rfl, ?_, ?_, ?_⟩
  · rw [String.toList_ofList, hbefore]
  · rw [parametersOf?, queryOf?, String.toList_ofList, hwhole, hafter]
    exact readQuery?_encodeQuery (List.cons_ne_nil _ _)
  · rw [String.toList_ofList]
    exact hno

end Settings

/-- A call sends one request, which asks the table of a store for what some parameters say. -/
def AsksOnce (s : RestState) (role : Role) (parameters : Parameters) (s' : RestState) : Prop :=
  ∃ address request, addressOf s.settings role = some address ∧ Sends s [request] s' ∧
    Asks address parameters request

section Calls

variable {s s' t t' : RestState} {role role' : Role}

theorem select_asks {α : Type} (h : HasQueryFreeBase s.settings role) (filters : Parameters)
    (read : Json → Except Rejection α) (invalid : Rejection → Cause) :
    AsksOnce s role (("select", "*") :: filters) (select role filters read invalid s).2 := by
  obtain ⟨address, request, haddress, hrequest, hasks⟩ := fetchRequest?_asks h filters
  have hsends := select_sends role filters read invalid s
  rw [hrequest, Option.toList_some] at hsends
  exact ⟨address, request, haddress, hsends, hasks⟩

/-- What is sent is told by what was sent before and after. -/
theorem Sends.unique {get get' : HttpRequest} (h : Sends s [get] s') (h' : Sends s [get'] s') :
    get = get' := by
  have hsent := h.sent.symm.trans h'.sent
  simpa using hsent

/-- The address of a request tells the parameters. -/
theorem AsksOnce.parameters_eq {parameters parameters' : Parameters}
    (h : AsksOnce s role parameters s') (h' : AsksOnce t role' parameters' t')
    {get get' : HttpRequest} (hget : Sends s [get] s') (hget' : Sends t [get'] t')
    (hurl : get.url = get'.url) : parameters = parameters' := by
  obtain ⟨address, request, -, hsends, hasks⟩ := h
  obtain ⟨address', request', -, hsends', hasks'⟩ := h'
  obtain rfl := hsends.unique hget
  obtain rfl := hsends'.unique hget'
  have hquery := hasks.query
  rw [hurl, hasks'.query] at hquery
  exact (Option.some.inj hquery).symm

/-- The address of a request tells what is asked for by name. -/
theorem AsksOnce.name_eq {field order id id' : String}
    (h : AsksOnce s role [("select", "*"), (field, "eq." ++ id), ("order", order)] s')
    (h' : AsksOnce t role' [("select", "*"), (field, "eq." ++ id'), ("order", order)] t')
    {get get' : HttpRequest} (hget : Sends s [get] s') (hget' : Sends t [get'] t')
    (hurl : get.url = get'.url) : id = id' := by
  have hparameters := h.parameters_eq h' hget hget' hurl
  simp only [List.cons.injEq, Prod.mk.injEq, true_and, and_true] at hparameters
  exact (String.append_right_inj _).1 hparameters

end Calls

/-- **What a listing asks for cannot be changed by what it is asked for.**  Where there is a base,
and no query or fragment begins in it or in the name of a table, the branches of a workflow and the
actions of a branch are asked for by one request, whose query is the three parameters of that
listing: whatever characters the name of the workflow or the branch is made of, it comes out as the
value of its parameter and as nothing else.  So different names make different addresses, whichever
the stores and their bases are. -/
theorem listings_ask (s : RestState) (hbranches : HasQueryFreeBase s.settings .branches)
    (hactions : HasQueryFreeBase s.settings .actions) :
    (∀ workflowId, AsksOnce s .branches
      [("select", "*"), ("workflow_id", "eq." ++ workflowId), ("order", "priority.desc")]
      (listBranches workflowId s).2) ∧
    (∀ branchId, AsksOnce s .actions
      [("select", "*"), ("branch_id", "eq." ++ branchId), ("order", "execution_order.asc")]
      (listActions branchId s).2) ∧
    (∀ (t : RestState), HasQueryFreeBase t.settings .branches → ∀ id id' get get',
      Sends s [get] (listBranches id s).2 → Sends t [get'] (listBranches id' t).2 →
        get.url = get'.url → id = id') ∧
    ∀ (t : RestState), HasQueryFreeBase t.settings .actions → ∀ id id' get get',
      Sends s [get] (listActions id s).2 → Sends t [get'] (listActions id' t).2 →
        get.url = get'.url → id = id' := by
  have hbranch {u : RestState} (h : HasQueryFreeBase u.settings .branches) (workflowId : String) :=
    select_asks h [("workflow_id", "eq." ++ workflowId), ("order", "priority.desc")]
      Branch.read .invalidBranch
  have haction {u : RestState} (h : HasQueryFreeBase u.settings .actions) (branchId : String) :=
    select_asks h [("branch_id", "eq." ++ branchId), ("order", "execution_order.asc")]
      Action.read .invalidAction
  exact ⟨hbranch hbranches, haction hactions,
    fun t ht id id' _ _ => (hbranch hbranches id).name_eq (hbranch ht id'),
    fun t ht id id' _ _ => (haction hactions id).name_eq (haction ht id')⟩

/-- A name that looks like the end of a query is asked for as a name, and a space is told from a
plus sign. -/
theorem listings_ask_marks :
    let settings : Settings :=
      ⟨some "http://localhost", none, "branches", "logs", "actions", "INFO", .ofInt 30⟩
    let s := RestState.start settings []
    HasQueryFreeBase settings .branches ∧ HasQueryFreeBase settings .actions ∧
      AsksOnce s .branches
        [("select", "*"), ("workflow_id", "eq.a&order=x#y%20?é\n"), ("order", "priority.desc")]
        (listBranches "a&order=x#y%20?é\n" s).2 ∧
      AsksOnce s .actions
        [("select", "*"), ("branch_id", "eq.a b"), ("order", "execution_order.asc")]
        (listActions "a b" s).2 ∧
      ∀ get get', Sends s [get] (listActions "a b" s).2 →
        Sends s [get'] (listActions "a+b" s).2 → get.url ≠ get'.url := by
  intro settings s
  have hbase : ∃ base, settings.baseUrl = some base ∧ base ≠ "" ∧ IsQueryFree base.toList :=
    ⟨"http://localhost", rfl, by decide, by decide⟩
  have hbranches : HasQueryFreeBase settings .branches := ⟨hbase, by decide⟩
  have hactions : HasQueryFreeBase settings .actions := ⟨hbase, by decide⟩
  obtain ⟨hbranch, haction, -, hdiffer⟩ := listings_ask s hbranches hactions
  refine ⟨hbranches, hactions, hbranch _, haction _, fun get get' hget hget' hurl => ?_⟩
  exact absurd (hdiffer s hactions _ _ get get' hget hget' hurl) (by decide)

end Rest

end BranchChoice
