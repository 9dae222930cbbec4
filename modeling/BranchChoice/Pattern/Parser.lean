import BranchChoice.Decimal.Reading
import BranchChoice.Pattern.Syntax
import BranchChoice.Text.CharacterName

/-!
# Reading patterns

A text as a pattern.  A text that is no pattern is malformed, whatever is wrong with it; three
further refusals are told apart, because they stop an evaluation instead of failing to match.
-/

namespace BranchChoice.Pattern

/-- Why a text is not accepted as a pattern. -/
inductive Refusal where
  | malformed
  | countTooLarge
  | countTooLong (digits : Nat)
  | mixedClasses
  deriving DecidableEq

/-- The wording of a refusal. -/
def Refusal.message : Refusal → String
  | malformed => "malformed pattern"
  | countTooLarge => "the repetition number is too large"
  | countTooLong digits =>
    "Exceeds the limit (4300 digits) for integer string conversion: " ++
      s!"value has {digits} digits; use sys.set_int_max_str_digits() to increase the limit"
  | mixedClasses => "ASCII and UNICODE flags are incompatible"

/-! ## Modes -/

/-- The modes that a part of a pattern is read in. -/
structure Mode where
  ignoreCase : Bool
  multiline : Bool
  dotAll : Bool
  verbose : Bool
  /-- Whether the named classes have ASCII characters only. -/
  plain : Bool

/-- No mode is on at first. -/
def Mode.initial : Mode := ⟨false, false, false, false, false⟩

/-- The case rule of a mode. -/
def Mode.rule (m : Mode) : CaseRule :=
  if m.ignoreCase then (if m.plain then .plain else .full) else .exact

/-- The mode with the modes of some letters turned on and those of others turned off. -/
def Mode.switch (m : Mode) (on off : List Char) : Mode :=
  let choose (letter : Char) (old : Bool) : Bool :=
    (old || on.contains letter) && !off.contains letter
  { ignoreCase := choose 'i' m.ignoreCase
    multiline := choose 'm' m.multiline
    dotAll := choose 's' m.dotAll
    verbose := choose 'x' m.verbose
    plain := if on.contains 'a' then true else if on.contains 'u' then false else m.plain }

/-- Whether the letter stands for a mode. -/
def isModeLetter (c : Char) : Bool :=
  ['i', 'L', 'm', 's', 'x', 'a', 't', 'u'].contains c

/-- What the letters after `(?` turn on and off: for the whole pattern, or for a group. -/
inductive ModeGroup where
  | whole (on : List Char)
  | scoped (on off : List Char)

/-- The letters to turn off, up to the colon; at least one. -/
def modesOff (on : List Char) : List Char → List Char → Option (ModeGroup × List Char)
  | off, c :: rest =>
    if isModeLetter c then
      if c == 'a' || c == 'u' || c == 'L' then none else modesOff on (c :: off) rest
    else if c == ':' && !off.isEmpty && !off.contains 't' && !on.any off.contains then
      some (.scoped on off, rest)
    else none
  | _, [] => none

/-- The letters to turn on, up to what ends them.  Of the two letters that choose the classes only
one may be there. -/
def modesOn : List Char → List Char → Option (ModeGroup × List Char)
  | on, c :: rest =>
    if isModeLetter c then
      if c == 'L' || (c == 'a' && on.contains 'u') || (c == 'u' && on.contains 'a') then none
      else modesOn (c :: on) rest
    else if c == ')' && !on.isEmpty then some (.whole on, rest)
    else if on.contains 't' then none
    else if c == ':' && !on.isEmpty then some (.scoped on [], rest)
    else if c == '-' then modesOff on [] rest
    else none
  | _, [] => none

/-! ## Characters and sets -/

/-- Exactly so many hexadecimal digits at the front. -/
def takeHex : Nat → Nat → List Char → Option (Nat × List Char)
  | 0, n, s => some (n, s)
  | width + 1, n, c :: rest => (Text.hexValue? c).bind fun d => takeHex width (n * 16 + d) rest
  | _ + 1, _, [] => none

/-- Whether the character is an octal digit. -/
def isOctal (c : Char) : Bool :=
  48 ≤ c.toNat && c.toNat ≤ 55

/-- At most so many octal digits at the front. -/
def takeOctal : Nat → Nat → List Char → Nat × List Char
  | 0, n, s => (n, s)
  | _ + 1, n, [] => (n, [])
  | width + 1, n, c :: rest =>
    if isOctal c then takeOctal width (n * 8 + (c.toNat - 48)) rest else (n, c :: rest)

/-- The characters before the first one that is `stop` and not escaped, and the text after it. -/
def takeUntil (stop : Char) : List Char → Option (List Char × List Char)
  | [] => none
  | '\\' :: c :: rest => (takeUntil stop rest).map fun (name, tail) => ('\\' :: c :: name, tail)
  | c :: rest =>
    if c == stop then some ([], rest)
    else (takeUntil stop rest).map fun (name, tail) => (c :: name, tail)

/-- A name before `stop`, which must not be empty. -/
def takeName (stop : Char) (s : List Char) : Option (List Char × List Char) :=
  (takeUntil stop s).filter fun (name, _) => !name.isEmpty

/-- The character of an escape that gives its code point or its name. -/
def codedEscape? (c : Char) (s : List Char) : Option (Nat × List Char) :=
  if c == 'x' then takeHex 2 0 s
  else if c == 'u' then takeHex 4 0 s
  else if c == 'U' then (takeHex 8 0 s).filter fun (n, _) => n < 1114112
  else if c == 'N' then
    match s with
    | '\x7b' :: rest =>
      (takeName '\x7d' rest).bind fun (name, tail) => (Text.named? name).map fun n => (n, tail)
    | _ => none
  else none

/-- Whether the letter starts an escape that gives a code point or a name. -/
def isCodedEscape (c : Char) : Bool :=
  c == 'x' || c == 'u' || c == 'U' || c == 'N'

/-- The code point of a control that has a letter of its own. -/
def controlEscape? (c : Char) : Option Nat :=
  if c == 'a' then some 7
  else if c == 'f' then some 12
  else if c == 'n' then some 10
  else if c == 'r' then some 13
  else if c == 't' then some 9
  else if c == 'v' then some 11
  else if c == '\\' then some 92
  else none

/-- The class of characters that a letter stands for; capitals stand for all others. -/
def categoryEscape? (c : Char) : Option Member :=
  if c == 'd' then some (.category false .digit)
  else if c == 'D' then some (.category true .digit)
  else if c == 's' then some (.category false .blank)
  else if c == 'S' then some (.category true .blank)
  else if c == 'w' then some (.category false .word)
  else if c == 'W' then some (.category true .word)
  else none

/-- The member of a set that an escape stands for. -/
def setEscape? (c : Char) (s : List Char) : Option (Member × List Char) :=
  if c == 'b' then some (.code 8, s)
  else if isCodedEscape c then (codedEscape? c s).map fun (n, rest) => (.code n, rest)
  else if isOctal c then
    let (n, rest) := takeOctal 2 (c.toNat - 48) s
    if n ≤ 255 then some (.code n, rest) else none
  else
    match controlEscape? c, categoryEscape? c with
    | some n, _ => some (.code n, s)
    | none, some member => some (member, s)
    | none, none => if c.isAlphanum then none else some (.code c.toNat, s)

/-- A single member of a set at the front. -/
def takeMember : List Char → Option (Member × List Char)
  | [] => none
  | '\\' :: c :: rest => setEscape? c rest
  | '\\' :: [] => none
  | c :: rest => some (.code c.toNat, rest)

/-- The members of a set up to its closing bracket, which cannot be the first.  `fuel` bounds the
members by the characters. -/
def takeMembers : Nat → List Member → List Char → Option (List Member × List Char)
  | 0, _, _ => none
  | fuel + 1, members, s =>
    match s, members with
    | ']' :: rest, _ :: _ => some (members, rest)
    | _, _ =>
      match takeMember s with
      | none => none
      | some (member, '-' :: ']' :: rest) => some (members ++ [member, .code 45], rest)
      | some (member, '-' :: rest) =>
        match member, takeMember rest with
        | .code low, some (.code high, tail) =>
          if high < low then none else takeMembers fuel (members ++ [.range low high]) tail
        | _, _ => none
      | some (member, rest) => takeMembers fuel (members ++ [member]) rest

/-- The test that a set stands for, after its opening bracket.  A set of one character is a test of
that character. -/
def takeSet (mode : Mode) (s : List Char) : Option (CharTest × List Char) :=
  let (negated, body) := match s with
    | '^' :: rest => (true, rest)
    | _ => (false, s)
  (takeMembers (body.length + 1) [] body).map fun (members, rest) =>
    match members.eraseDups with
    | [.code n] => (.code negated n mode.rule, rest)
    | distinct => (.set negated distinct mode.rule mode.plain, rest)

/-! ## Repetition counts -/

/-- Counts from here on are refused. -/
def countLimit : Nat := 4294967295

/-- The bounds of a repetition after its opening brace, as digits: with no comma both are the same,
and an absent one is empty.  `none` if the brace is an ordinary character. -/
def takeBounds (s : List Char) : Option (List Char × List Char × List Char) :=
  match Decimal.spanDigits s with
  | (least, ',' :: more) =>
    match Decimal.spanDigits more with
    | (most, '\x7d' :: rest) => some (least, most, rest)
    | _ => none
  | ([], _) => none
  | (count, '\x7d' :: rest) => some (count, count, rest)
  | _ => none

/-- The value of a count; `none` for an absent one. -/
def count? (digits : List Char) : Except Refusal (Option Nat) :=
  if digits.isEmpty then .ok none
  else if 4300 < digits.length then .error (.countTooLong digits.length)
  else
    let n := Decimal.ofDigits digits
    if countLimit ≤ n then .error .countTooLarge else .ok (some n)

/-! ## Sequences and alternatives -/

/-- What may follow a part of a sequence: only some parts can be repeated. -/
inductive LeafKind where
  | anchor
  | repeated
  /-- A group with modes of its own, which is never taken for the test that it may consist of. -/
  | scoped
  | other
  deriving DecidableEq

/-- A part of a sequence. -/
structure Leaf where
  node : Node
  kind : LeafKind

/-- A part of a sequence that is being read: a leaf, or a group that only holds parts together. -/
inductive Piece where
  | leaf (leaf : Leaf)
  | bundle (leaves : List Leaf)

/-- The parts of a sequence, the groups that only hold parts together opened. -/
def Piece.leaves : Piece → List Leaf
  | leaf l => [l]
  | bundle ls => ls

/-- The pattern of a sequence of parts. -/
def sequence (leaves : List Leaf) : Node :=
  Node.seqOf (leaves.map (·.node))

/-- Whether two parts are the same simple test. -/
def Leaf.same (a b : Leaf) : Bool :=
  a.kind != .scoped && b.kind != .scoped &&
    match a.node, b.node with
    | .one s, .one t => s == t
    | .anchor s, .anchor t => s == t
    | .backref i _ _, .backref j _ _ => i == j
    | _, _ => false

/-- The tests with which all alternatives start, and the alternatives without them. -/
def factor : List Leaf → List (List Leaf) → List Leaf × List Leaf × List (List Leaf)
  | [], others => ([], [], others)
  | l :: ls, others =>
    if others.all fun other => other.head?.any l.same then
      let (shared, first, rest) := factor ls (others.map List.tail)
      (l :: shared, first, rest)
    else ([], l :: ls, others)

/-- The members of the set that an alternative amounts to, if it is a single test of that kind. -/
def Leaf.members? : List Leaf → Option (List Member)
  | [⟨.one (.code false n _), .other⟩] => some [.code n]
  | [⟨.one (.set false members _ _), .other⟩] => some members
  | _ => none

/-- Alternatives as parts of a sequence.  What all start with comes first, and alternatives that are
single characters or sets make one set. -/
def joinAlternatives (mode : Mode) : List (List Leaf) → List Leaf
  | [] => []
  | [only] => only
  | first :: others =>
    let (shared, head, tails) := factor first others
    let branches := head :: tails
    let joined : Node :=
      match branches.mapM Leaf.members? with
      | some sets => .one (.set false sets.flatten.eraseDups mode.rule mode.plain)
      | none => Node.altOf (branches.map sequence)
    shared ++ [⟨joined, .other⟩]

/-! ## The reading -/

/-- Where the reading of a pattern stands. -/
structure Progress where
  rest : List Char
  /-- How many groups have been opened. -/
  groups : Nat
  /-- The groups that have been closed, with their widths. -/
  closed : List (Nat × (Nat × Nat))
  names : List (List Char × Nat)
  /-- How many groups had been opened where the outermost part that looks behind began. -/
  behindFrom : Option Nat
  /-- The groups that conditions name by number. -/
  referred : List Nat
  /-- The modes of the whole pattern, and the letters that have turned them on. -/
  mode : Mode
  letters : List Char
  hasRepetition : Bool
  /-- Whether some part looks behind by no definite number of characters. -/
  indefiniteBehind : Bool

/-- A reading step. -/
abbrev Parse := StateT Progress (Except Refusal)

/-- Gives up on a malformed text. -/
def refuse {α : Type} : Parse α :=
  throw .malformed

/-- The value, or a refusal if there is none. -/
def demand {α : Type} : Option α → Parse α
  | some a => pure a
  | none => refuse

/-- Goes on with the given text. -/
def setRest (rest : List Char) : Parse Unit :=
  modify fun p => { p with rest := rest }

/-- Takes the character from the front if it is there. -/
def accept (c : Char) : Parse Bool := do
  match (← get).rest with
  | d :: rest => if c == d then setRest rest; return true else return false
  | [] => return false

/-- Takes the character from the front, where it must be. -/
def expect (c : Char) : Parse Unit := do
  unless ← accept c do refuse

/-- Whether a reference from a part that looks behind is allowed: the group must be closed, and not
in that part. -/
def behindAllows (p : Progress) (index : Nat) : Bool :=
  match p.behindFrom with
  | none => true
  | some limit => (p.closed.lookup index).isSome && index ≤ limit

/-- A reference to a group, which must be closed. -/
def reference (mode : Mode) (index : Nat) : Parse Piece := do
  let p ← get
  let width ← demand (p.closed.lookup index)
  unless behindAllows p index do refuse
  return .leaf ⟨.backref index mode.rule width, .other⟩

/-- A part that is one test. -/
def single (test : CharTest) : Piece :=
  .leaf ⟨.one test, .other⟩

/-- A part that is an anchor. -/
def anchored (place : Anchor) : Piece :=
  .leaf ⟨.anchor place, .anchor⟩

/-- The part that an escape stands for, the text after its letter at hand. -/
def readEscape (mode : Mode) (c : Char) (s : List Char) : Parse Piece := do
  setRest s
  if c == 'A' then return anchored .textStart
  if c == 'Z' then return anchored .textEnd
  if c == 'b' then return anchored (.wordEdge false mode.plain)
  if c == 'B' then return anchored (.wordEdge true mode.plain)
  if let some member := categoryEscape? c then
    return single (.set false [member] mode.rule mode.plain)
  if let some n := controlEscape? c then return single (.code false n mode.rule)
  if isCodedEscape c then
    let (n, rest) ← demand (codedEscape? c s)
    setRest rest
    return single (.code false n mode.rule)
  if c == '0' then
    let (n, rest) := takeOctal 2 0 s
    setRest rest
    return single (.code false n mode.rule)
  if c.isDigit then
    match s with
    | d :: rest =>
      if d.isDigit then
        match rest with
        | e :: tail =>
          if isOctal c && isOctal d && isOctal e then
            let (n, _) := takeOctal 3 0 [c, d, e]
            unless n ≤ 255 do refuse
            setRest tail
            return single (.code false n mode.rule)
        | [] => pure ()
        setRest rest
        return ← reference mode (Decimal.ofDigits [c, d])
    | [] => pure ()
    return ← reference mode (Decimal.ofDigits [c])
  if c.isAlpha then refuse
  return single (.code false c.toNat mode.rule)

/-- Repeats the latest part.  Neither an anchor nor a repetition can be repeated, and something must
be there. -/
def repeatLatest (least : Nat) (most : Option Nat) (pieces : List Piece) :
    Parse (List Piece) := do
  match pieces with
  | [] => refuse
  | latest :: before =>
    let body ← match latest with
      | .leaf l =>
        if l.kind != .anchor && l.kind != .repeated then pure l.node else refuse
      | .bundle ls => pure (sequence ls)
    let isLazy ← accept '?'
    let isPossessive ← if isLazy then pure false else accept '+'
    let greed := if isLazy then .lazy else if isPossessive then .possessive else .greedy
    modify fun p => { p with hasRepetition := true }
    return .leaf ⟨.repetition least most greed body, .repeated⟩ :: before

/-- The repetition that an opening brace starts, or the brace itself. -/
def readBounds (mode : Mode) (s : List Char) (pieces : List Piece) : Parse (List Piece) := do
  setRest s
  match takeBounds s with
  | none => return single (.code false 123 mode.rule) :: pieces
  | some (leastDigits, mostDigits, rest) =>
    setRest rest
    if rest == ['\\'] then refuse
    let least ← count? leastDigits
    let most ← count? mostDigits
    if let some m := most then
      if m < least.getD 0 then refuse
    repeatLatest (least.getD 0) most pieces

/-- The group that a condition names, by its name or its number. -/
def conditionGroup (name : List Char) : Parse Nat := do
  let p ← get
  if Text.isIdentifier name then demand (p.names.lookup name)
  else
    match Numeral.readInt? name with
    | none => refuse
    | some n =>
      if n ≤ 0 || 1073741823 ≤ n || 4300 < name.length then refuse
      else
        set { p with referred := n.toNat :: p.referred }
        return n.toNat

/-- Opens a capturing group, whose name must be new. -/
def openGroup (name : Option (List Char)) : Parse Nat := do
  let p ← get
  let index := p.groups + 1
  match name with
  | none => set { p with groups := index }
  | some n =>
    if (p.names.lookup n).isSome then refuse
    set { p with groups := index, names := (n, index) :: p.names }
  return index

/-- The text after a comment that goes up to the end of its line. -/
def skipComment : List Char → List Char
  | [] => []
  | ['\\'] => ['\\']
  | '\\' :: _ :: rest => skipComment rest
  | '\n' :: rest => rest
  | _ :: rest => skipComment rest

/-- What a group turned out to be: a part, or only a change of modes or a comment. -/
inductive GroupResult where
  | part (piece : Piece)
  | nothing (mode : Mode)

mutual

/-- The alternatives from here on, as parts of a sequence.  Every character takes at most four steps
of the reading, which bounds `fuel`. -/
def readAlternatives : Nat → Bool → Mode → Parse (List Leaf)
  | 0, _, _ => refuse
  | fuel + 1, top, mode => do
    let branches ← readBranches fuel top top mode
    let p ← get
    return joinAlternatives (if top then p.mode else mode) branches

/-- The alternatives from here on, each as parts of a sequence. -/
def readBranches : Nat → Bool → Bool → Mode → Parse (List (List Leaf))
  | 0, _, _, _ => refuse
  | fuel + 1, top, first, mode => do
    let p ← get
    let branch ← readParts fuel first (if top then p.mode else mode) []
    if ← accept '|' then
      let others ← readBranches fuel top false mode
      return branch :: others
    else
      return [branch]

/-- The parts of a sequence from here on; `pieces` are those read so far, the latest first.  `first`
tells the very first sequence, at whose front the modes of the whole pattern can be set. -/
def readParts : Nat → Bool → Mode → List Piece → Parse (List Leaf)
  | 0, _, _, _ => refuse
  | fuel + 1, first, mode, pieces => do
    match (← get).rest with
    | [] => return pieces.reverse.flatMap Piece.leaves
    | ['\\'] => refuse
    | '\\' :: c :: s =>
      let piece ← readEscape mode c s
      readParts fuel first mode (piece :: pieces)
    | c :: s =>
      if c == '|' || c == ')' then return pieces.reverse.flatMap Piece.leaves
      else if mode.verbose && Text.isPlainBlank c then
        setRest s
        readParts fuel first mode pieces
      else if mode.verbose && c == '#' then
        setRest (skipComment s)
        readParts fuel first mode pieces
      else if c == '[' then
        let (test, rest) ← demand (takeSet mode s)
        setRest rest
        readParts fuel first mode (single test :: pieces)
      else if c == '?' then
        setRest s
        readParts fuel first mode (← repeatLatest 0 (some 1) pieces)
      else if c == '*' then
        setRest s
        readParts fuel first mode (← repeatLatest 0 none pieces)
      else if c == '+' then
        setRest s
        readParts fuel first mode (← repeatLatest 1 none pieces)
      else if c == '\x7b' then
        readParts fuel first mode (← readBounds mode s pieces)
      else if c == '(' then
        setRest s
        match ← readGroup fuel (first && pieces.isEmpty) mode with
        | .part piece => readParts fuel first mode (piece :: pieces)
        | .nothing newMode => readParts fuel first newMode pieces
      else
        setRest s
        let piece :=
          if c == '.' then single (.any mode.dotAll)
          else if c == '^' then anchored (if mode.multiline then .lineStart else .textStart)
          else if c == '$' then anchored (if mode.multiline then .lineEnd else .lastLineEnd)
          else single (.code false c.toNat mode.rule)
        readParts fuel first mode (piece :: pieces)

/-- The group from here on, its opening parenthesis taken. -/
def readGroup : Nat → Bool → Mode → Parse GroupResult
  | 0, _, _ => refuse
  | fuel + 1, atStart, mode => do
    unless ← accept '?' do return ← readCapture fuel none mode
    match (← get).rest with
    | 'P' :: '<' :: s =>
      let (name, rest) ← demand (takeName '>' s)
      unless Text.isIdentifier name do refuse
      setRest rest
      readCapture fuel (some name) mode
    | 'P' :: '=' :: s =>
      let (name, rest) ← demand (takeName ')' s)
      unless Text.isIdentifier name do refuse
      setRest rest
      let index ← demand ((← get).names.lookup name)
      return .part (← reference mode index)
    | ':' :: s =>
      setRest s
      let leaves ← readAlternatives fuel false mode
      expect ')'
      return .part (.bundle leaves)
    | '#' :: s =>
      let (_, rest) ← demand (takeUntil ')' s)
      setRest rest
      return .nothing mode
    | '=' :: s =>
      setRest s
      let leaves ← readAlternatives fuel false mode
      expect ')'
      return .part (.leaf ⟨.ahead false (sequence leaves), .other⟩)
    | '!' :: s =>
      setRest s
      let leaves ← readAlternatives fuel false mode
      expect ')'
      return .part (.leaf ⟨.ahead true (sequence leaves), .other⟩)
    | '<' :: '=' :: s =>
      setRest s
      readBehind fuel false mode
    | '<' :: '!' :: s =>
      setRest s
      readBehind fuel true mode
    | '(' :: s =>
      let (name, rest) ← demand (takeName ')' s)
      let index ← conditionGroup name
      unless behindAllows (← get) index do refuse
      setRest rest
      let yes ← readParts fuel false mode []
      let no ←
        if ← accept '|' then
          let leaves ← readParts fuel false mode []
          if (← get).rest.head? == some '|' then refuse
          pure (sequence leaves)
        else pure Node.empty
      expect ')'
      return .part (.leaf ⟨.conditional index (sequence yes) no, .other⟩)
    | '>' :: s =>
      setRest s
      let leaves ← readAlternatives fuel false mode
      expect ')'
      return .part (.leaf ⟨.atomic (sequence leaves), .other⟩)
    | s =>
      match ← demand (modesOn [] s) with
      | (.whole on, rest) =>
        unless atStart do refuse
        let p ← get
        let newMode := p.mode.switch on []
        set { p with rest := rest, mode := newMode, letters := on ++ p.letters }
        return .nothing newMode
      | (.scoped on off, rest) =>
        setRest rest
        let leaves ← readAlternatives fuel false (mode.switch on off)
        expect ')'
        return .part (.leaf ⟨sequence leaves, .scoped⟩)

/-- A capturing group, which is kept under the next index. -/
def readCapture : Nat → Option (List Char) → Mode → Parse GroupResult
  | 0, _, _ => refuse
  | fuel + 1, name, mode => do
    let index ← openGroup name
    let leaves ← readAlternatives fuel false mode
    expect ')'
    let body := sequence leaves
    modify fun p => { p with closed := (index, body.width) :: p.closed }
    return .part (.leaf ⟨.group index body, .other⟩)

/-- A part that looks behind, by the number of characters that it takes. -/
def readBehind : Nat → Bool → Mode → Parse GroupResult
  | 0, _, _ => refuse
  | fuel + 1, negated, mode => do
    let outer := (← get).behindFrom
    if outer.isNone then modify fun p => { p with behindFrom := some p.groups }
    let leaves ← readAlternatives fuel false mode
    if outer.isNone then modify fun p => { p with behindFrom := none }
    expect ')'
    let body := sequence leaves
    let (low, high) := body.width
    if low != high || countLimit < low then
      modify fun p => { p with indefiniteBehind := true }
    return .part (.leaf ⟨.behind negated low body, .other⟩)

end

/-- The test of the first character, if the pattern starts with a set.  A set that ignores case
counts only if it consists of named classes. -/
def leadTest? : Node → Option (Bool × List Member)
  | .seq first _ => leadTest? first
  | .group _ body => leadTest? body
  | .one (.set negated members rule _) =>
    let isCategory : Member → Bool
      | .category _ _ => true
      | _ => false
    if rule == .exact || members.all isCategory then some (negated, members) else none
  | _ => none

/-- A pattern with what is required of the character where a match starts. -/
structure Compiled where
  body : Node
  lead : Option CharTest

/-- The pattern as a whole.  A set that it starts with must hold with the classes of the whole
pattern too, unless the pattern matches the empty text. -/
def Compiled.ofNode (mode : Mode) (body : Node) : Compiled :=
  let lead := (leadTest? body).map fun (negated, members) =>
    CharTest.set negated members .exact mode.plain
  ⟨body, if body.width.1 = 0 then none else lead⟩

/-- The pattern that a text spells.  Both letters that choose the classes exclude each other even
when they come apart; what is left over, conditions on groups that are not there, parts that look
behind by no definite number, and repetitions in a mode that has none are malformed. -/
def compile (pattern : String) : Except Refusal Compiled := do
  let s := pattern.toList
  let start : Progress :=
    { rest := s, groups := 0, closed := [], names := [], behindFrom := none, referred := [],
      mode := Mode.initial, letters := [], hasRepetition := false, indefiniteBehind := false }
  let (leaves, p) ← (readAlternatives (4 * s.length + 8) true Mode.initial).run start
  if p.letters.contains 'a' && p.letters.contains 'u' then throw .mixedClasses
  unless p.rest.isEmpty do throw .malformed
  if p.referred.any fun index => p.groups < index then throw .malformed
  if p.indefiniteBehind || (p.letters.contains 't' && p.hasRepetition) then throw .malformed
  return .ofNode p.mode (sequence leaves)

end BranchChoice.Pattern
