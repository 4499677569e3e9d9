import Mathlib.Logic.Relation
import Runbook.Proofs.Yaml.Scan

/-!
# Reading in flow collections

What one token of compact JSON text does to the state of the reading: brackets, commas, words
(`Yaml.Lexer.Flowing.word`), strings (`Yaml.Lexer.Flowing.string`) and names together with their
colons (`Yaml.Lexer.Flowing.name`). Nothing requires a key on the way, so candidates that are too far
behind are given up without harm, and the name in front of a colon is still near.
-/

namespace Runbook.Yaml

namespace Lexer

open Json (Delimited chars itemsChars membersChars quote)

/-! ## Single tokens -/

/-- One token is read. -/
def Reads (lexer next : Lexer) : Prop :=
  next.rest.length < lexer.rest.length ∧ ∀ fuel, run (fuel + 1) lexer = run fuel next

/-- Some tokens are read. -/
def Leads : Lexer → Lexer → Prop := Relation.ReflTransGen Reads

/-- Each token takes a character, so there is fuel enough to read on. -/
theorem run_of_leads {lexer next : Lexer} (leads : Leads lexer next) {result : Option Lexer}
    (finishes : ∀ fuel, next.rest.length < fuel → run fuel next = result) :
    ∀ fuel, lexer.rest.length < fuel → run fuel lexer = result := by
  induction leads using Relation.ReflTransGen.head_induction_on with
  | refl => exact finishes
  | head reads _ ih =>
      intro fuel enough
      obtain ⟨shorter, same⟩ := reads
      obtain ⟨fuel, rfl⟩ := Nat.exists_eq_succ_of_ne_zero (Nat.ne_zero_of_lt enough)
      rw [Nat.succ_eq_add_one, same]
      exact ih fuel (by omega)

/-- A state outside of all block collections, in `depth` flow collections, in which nothing requires
a key. If `keys` is set, a key may begin. -/
structure Flowing (depth : Nat) (keys : Bool) (tokens : List Token) (rest : List Char)
    (lexer : Lexer) : Prop where
  tokens_eq : lexer.tokens = tokens
  rest_eq : lexer.rest = rest
  depth_eq : lexer.outerCandidates.length = depth
  allowed : keys = true → lexer.keyAllowed = true
  inLine : 0 < depth → 0 < lexer.place.column
  indent_eq : lexer.indent = -1
  outer_eq : lexer.outerIndents = []
  optional : ∀ candidate ∈ lexer.candidate, candidate.required = false
  outer_optional : ∀ outer ∈ lexer.outerCandidates, ∀ candidate ∈ outer, candidate.required = false

/-- The state without the candidates that are too far behind. -/
def forget (lexer : Lexer) : Lexer :=
  let near (candidate : Candidate) : Bool := !isTooFar candidate.place lexer.place
  { lexer with
    candidate := lexer.candidate.filter near
    outerCandidates := lexer.outerCandidates.map (·.filter near) }

/-- Whether a token begins with a character. -/
def isInk (c : Char) : Bool := !(isBreak c || isBlank c || c == '#' || c == byteOrderMark)

section Flowing

variable {depth : Nat} {keys : Bool} {tokens : List Token} {rest : List Char} {lexer : Lexer}

theorem Flowing.start (chars : List Char) : Flowing 0 true [] chars (.start chars) where
  tokens_eq := rfl
  rest_eq := rfl
  depth_eq := rfl
  allowed _ := rfl
  inLine deep := absurd deep (Nat.lt_irrefl 0)
  indent_eq := rfl
  outer_eq := rfl
  optional := nofun
  outer_optional := nofun

theorem Flowing.forget (flowing : Flowing depth keys tokens rest lexer) :
    Flowing depth keys tokens rest lexer.forget where
  tokens_eq := flowing.tokens_eq
  rest_eq := flowing.rest_eq
  depth_eq := (List.length_map _).trans flowing.depth_eq
  allowed := flowing.allowed
  inLine := flowing.inLine
  indent_eq := flowing.indent_eq
  outer_eq := flowing.outer_eq
  optional candidate member := flowing.optional candidate (Option.mem_filter_iff.mp member).1
  outer_optional outer listed candidate member := by
    obtain ⟨before, member_before, rfl⟩ := List.mem_map.mp listed
    exact flowing.outer_optional before member_before candidate (Option.mem_filter_iff.mp member).1

theorem Flowing.inFlow (flowing : Flowing (depth + 1) keys tokens rest lexer) :
    lexer.inFlow = true := by
  have some := flowing.depth_eq
  unfold Lexer.inFlow
  cases outer : lexer.outerCandidates with
  | nil =>
      rw [outer] at some
      cases some
  | cons => rfl

theorem expireOne_of_optional {current : Place} {candidate : Option Candidate}
    (optional : ∀ given ∈ candidate, given.required = false) :
    expireOne current candidate =
      some (candidate.filter fun given => !isTooFar given.place current) := by
  cases candidate with
  | none => rfl
  | some given =>
      rw [expireOne, optional given rfl, Option.filter_some]
      by_cases far : isTooFar given.place current = true <;> simp [far]

theorem mapM_expireOne_of_optional {current : Place} {outer : List (Option Candidate)}
    (optional : ∀ candidate ∈ outer, ∀ given ∈ candidate, given.required = false) :
    outer.mapM (expireOne current) =
      some (outer.map (·.filter fun given => !isTooFar given.place current)) := by
  induction outer with
  | nil => rfl
  | cons candidate outer ih =>
      obtain ⟨first, later⟩ := List.forall_mem_cons.mp optional
      rw [List.mapM_cons, expireOne_of_optional first, ih later]
      rfl

/-- Where nothing requires a key, candidates are given up without harm. -/
theorem Flowing.expire (flowing : Flowing depth keys tokens rest lexer) :
    lexer.expire = some lexer.forget := by
  rw [Lexer.expire, expireOne_of_optional flowing.optional,
    mapM_expireOne_of_optional flowing.outer_optional]
  rfl

/-- Outside of block collections none is closed. -/
theorem Flowing.unindent (flowing : Flowing depth keys tokens rest lexer) (column : Int) :
    lexer.unindent column = lexer := by
  rw [Lexer.unindent, flowing.outer_eq, closeDeeper]
  split_ifs
  · rfl
  · have same := flowing.outer_eq
    cases lexer
    cases same
    rfl

theorem toNextToken_of_isInk {first : Char} {behind : List Char} (ink : isInk first = true)
    (begins : lexer.rest = first :: behind) : lexer.toNextToken = lexer := by
  simp only [isInk, isBlank, Bool.not_eq_true', Bool.or_eq_false_iff] at ink
  obtain ⟨⟨⟨inLine, notSpace, notTab⟩, notComment⟩, notMark⟩ := ink
  have stays (allowed : Bool) (place : Place) :
      skipGap lexer.inFlow false allowed place (first :: behind) =
        ⟨allowed, place, first :: behind⟩ := by
    rw [skipGap]
    simp [inLine, notSpace, notTab, notComment, notMark]
  rw [toNextToken, begins, stays, ← begins]
  rfl

/-- In front of a token, reading goes on with that token. -/
theorem Flowing.run_succ {first : Char} {behind : List Char}
    (flowing : Flowing depth keys tokens (first :: behind) lexer) (ink : isInk first = true)
    (fuel : Nat) :
    run (fuel + 1) lexer = (lexer.forget.readToken first behind).bind (run fuel) := by
  rw [run, toNextToken_of_isInk ink flowing.rest_eq, flowing.expire, Option.bind_eq_bind,
    Option.bind_some]
  dsimp only
  rw [flowing.forget.unindent, flowing.forget.rest_eq]

/-- A token that is read in front of a text leads to the state behind it. -/
theorem Flowing.reads {first : Char} {behind : List Char}
    (flowing : Flowing depth keys tokens (first :: behind) lexer) (ink : isInk first = true)
    {next : Lexer} (read : lexer.forget.readToken first behind = some next)
    (shorter : next.rest.length ≤ behind.length) : Reads lexer next := by
  refine ⟨?_, fun fuel => ?_⟩
  · rw [flowing.rest_eq, List.length_cons]
    omega
  · rw [flowing.run_succ ink, read, Option.bind_some]

/-! ### What single steps keep -/

theorem Flowing.withCandidate (flowing : Flowing depth keys tokens rest lexer)
    {saved : Option Candidate} (optional : ∀ given ∈ saved, given.required = false) :
    Flowing depth keys tokens rest { lexer with candidate := saved } :=
  { flowing with optional }

theorem Flowing.allowKey (flowing : Flowing depth keys tokens rest lexer) (allowed : Bool) :
    Flowing depth allowed tokens rest (lexer.allowKey allowed) :=
  { flowing with allowed := id }

theorem Flowing.takeOne {first : Char} {behind : List Char}
    (flowing : Flowing depth keys tokens (first :: behind) lexer) (token : Token) :
    Flowing depth keys (token :: tokens) behind (lexer.takeOne token) where
  tokens_eq := congrArg (token :: ·) flowing.tokens_eq
  rest_eq := congrArg (List.drop 1) flowing.rest_eq
  depth_eq := flowing.depth_eq
  allowed := flowing.allowed
  inLine _ := Nat.succ_pos _
  indent_eq := flowing.indent_eq
  outer_eq := flowing.outer_eq
  optional := flowing.optional
  outer_optional := flowing.outer_optional

/-- What a scalar leaves behind. -/
theorem Flowing.push (flowing : Flowing depth keys tokens rest lexer) {place : Place}
    (later : lexer.place.column ≤ place.column) (allowed : Bool) (token : Token)
    (behind : List Char) :
    Flowing depth allowed (token :: tokens) behind
      ({ lexer.allowKey allowed with place := place, rest := behind }.push token) where
  tokens_eq := congrArg (token :: ·) flowing.tokens_eq
  rest_eq := rfl
  depth_eq := flowing.depth_eq
  allowed := id
  inLine deep := Nat.lt_of_lt_of_le (flowing.inLine deep) later
  indent_eq := flowing.indent_eq
  outer_eq := flowing.outer_eq
  optional := flowing.optional
  outer_optional := flowing.outer_optional

theorem Flowing.dropCandidate (flowing : Flowing depth keys tokens rest lexer) :
    lexer.dropCandidate = some { lexer with candidate := none } := by
  have optional : lexer.candidate.any (·.required) = false := by
    cases given : lexer.candidate with
    | none => rfl
    | some candidate => exact flowing.optional candidate given
  rw [Lexer.dropCandidate, optional]
  rfl

/-- A place is remembered only where a key may begin, and it requires no key. -/
theorem Flowing.saveCandidate (flowing : Flowing depth keys tokens rest lexer) :
    ∃ saved, lexer.saveCandidate = some { lexer with candidate := saved } ∧
      (∀ given ∈ saved, given.required = false) ∧
      (keys = true → saved = some ⟨lexer.tokenCount, lexer.place, false⟩) := by
  have optional : (!lexer.inFlow && lexer.indent == lexer.place.column) = false := by
    rw [flowing.indent_eq]
    simp
  by_cases allowed : lexer.keyAllowed = true
  · refine ⟨some ⟨lexer.tokenCount, lexer.place, false⟩, ?_, ?_, fun _ => rfl⟩
    · rw [Lexer.saveCandidate, if_pos allowed, optional, flowing.dropCandidate]
      rfl
    · rintro given ⟨⟩
      rfl
  · refine ⟨lexer.candidate, ?_, flowing.optional,
      fun keys => absurd (flowing.allowed keys) allowed⟩
    rw [Lexer.saveCandidate, if_neg allowed]

theorem Flowing.openFlow {first : Char} {behind : List Char}
    (flowing : Flowing depth keys tokens (first :: behind) lexer) (token : Token) :
    ∃ next, lexer.openFlow token = some next ∧
      Flowing (depth + 1) true (token :: tokens) behind next := by
  obtain ⟨saved, save, optional, -⟩ := flowing.saveCandidate
  rw [Lexer.openFlow, save]
  refine ⟨_, rfl, ?_⟩
  -- In front of the root the column is the first one, so the state cannot be nested before the
  -- bracket is taken.
  exact
    { tokens_eq := congrArg (token :: ·) flowing.tokens_eq
      rest_eq := congrArg (List.drop 1) flowing.rest_eq
      depth_eq := congrArg (· + 1) flowing.depth_eq
      allowed := fun _ => rfl
      inLine := fun _ => Nat.succ_pos _
      indent_eq := flowing.indent_eq
      outer_eq := flowing.outer_eq
      optional := nofun
      outer_optional := List.forall_mem_cons.mpr ⟨optional, flowing.outer_optional⟩ }

theorem Flowing.closeFlow {first : Char} {behind : List Char}
    (flowing : Flowing (depth + 1) keys tokens (first :: behind) lexer) (token : Token) :
    ∃ next, lexer.closeFlow token = some next ∧
      Flowing depth false (token :: tokens) behind next := by
  have deep := flowing.depth_eq
  have each := flowing.outer_optional
  rw [Lexer.closeFlow, flowing.dropCandidate]
  cases outer : lexer.outerCandidates with
  | nil =>
      rw [outer] at deep
      cases deep
  | cons candidate others =>
      rw [outer] at deep each
      obtain ⟨optional, outer_optional⟩ := List.forall_mem_cons.mp each
      have left : Flowing depth keys tokens (first :: behind)
          { lexer with candidate := candidate, outerCandidates := others } :=
        { flowing with
          depth_eq := Nat.succ.inj deep
          inLine := fun _ => flowing.inLine (Nat.succ_pos depth)
          optional
          outer_optional }
      exact ⟨_, rfl, (left.allowKey false).takeOne token⟩

theorem Flowing.comma {first : Char} {behind : List Char}
    (flowing : Flowing depth keys tokens (first :: behind) lexer) :
    ∃ next, lexer.comma = some next ∧ Flowing depth true (.comma :: tokens) behind next := by
  have dropped : Flowing depth keys tokens (first :: behind) { lexer with candidate := none } :=
    flowing.withCandidate nofun
  rw [Lexer.comma, flowing.dropCandidate]
  exact ⟨_, rfl, (dropped.allowKey true).takeOne .comma⟩

/-- A quoted text is a scalar. If a key may begin in front of it, its place is remembered. -/
theorem Flowing.quotedScalar {text : String} (ascii : ∀ c ∈ text.toList, c.toNat ≤ 0x7E)
    (flowing : Flowing depth keys tokens (quote text ++ rest) lexer) :
    ∃ next, lexer.quotedScalar scanDoubleQuoted = some next ∧
      Flowing depth false (.scalar text.toList false :: tokens) rest next ∧
      next.place = lexer.place.skip (quote text).length ∧
      next.tokenCount = lexer.tokenCount + 1 ∧
      (keys = true → next.candidate = some ⟨lexer.tokenCount, lexer.place, false⟩) := by
  obtain ⟨saved, save, optional, remembered⟩ := flowing.saveCandidate
  have behind : lexer.rest.tail = text.toList.flatMap Json.escapeChar ++ '"' :: rest := by
    rw [flowing.rest_eq, quote, List.cons_append, List.tail_cons, List.append_assoc]
    rfl
  have place : (lexer.place.skip 1).skip ((text.toList.flatMap Json.escapeChar).length + 1) =
      lexer.place.skip (quote text).length := by
    rw [Place.skip_skip, quote]
    simp [Nat.add_comm]
  have scanned : scanDoubleQuoted [] .none (lexer.place.skip 1) lexer.rest.tail =
      some ⟨text.toList, lexer.place.skip (quote text).length, rest⟩ := by
    rw [behind, ← place]
    exact scanDoubleQuoted_flatMap ascii (Nat.succ_pos _) [] []
  rw [Lexer.quotedScalar, save, Option.bind_eq_bind, Option.bind_some, scanned]
  refine ⟨_, rfl, ?_, rfl, rfl, remembered⟩
  exact (flowing.withCandidate optional).push (Nat.le_add_right _ _) false _ rest

/-- A word is a plain scalar. -/
theorem Flowing.plainScalar {word : List Char} (names : ∀ c ∈ word, isNameChar c = true)
    (delimited : Delimited rest)
    (flowing : Flowing (depth + 1) keys tokens (word ++ rest) lexer) :
    ∃ next, lexer.plainScalar = some next ∧
      Flowing (depth + 1) false (.scalar word true :: tokens) rest next := by
  obtain ⟨saved, save, optional, -⟩ := flowing.saveCandidate
  have scanned : scanPlain lexer.inFlow (lexer.indent + 1) [] .none lexer.place lexer.rest =
      some ⟨⟨word, false⟩, lexer.place.skip word.length, rest⟩ := by
    rw [flowing.inFlow, flowing.rest_eq]
    exact scanPlain_append names delimited _ [] _
  rw [Lexer.plainScalar, save, Option.bind_eq_bind, Option.bind_some]
  change ∃ next, ((scanPlain lexer.inFlow (lexer.indent + 1) [] .none lexer.place lexer.rest).bind
    _) = some next ∧ _
  rw [scanned]
  exact ⟨_, rfl, (flowing.withCandidate optional).push (Nat.le_add_right _ _) false _ rest⟩

/-- A colon makes the scalar in front of it a key. -/
theorem Flowing.value {first : Char} {behind : List Char} {token : Token} {count : Nat}
    {place : Place}
    (flowing : Flowing (depth + 1) keys (token :: tokens) (first :: behind) lexer)
    (remembered : lexer.candidate = some ⟨count, place, false⟩)
    (last : lexer.tokenCount = count + 1) :
    ∃ next, lexer.value = some next ∧
      Flowing (depth + 1) false (.value :: token :: .key :: tokens) behind next := by
  have deep : (lexer.pushAt count .key).inFlow = true := flowing.inFlow
  have later : lexer.tokenCount - count = 1 := by omega
  have keyed : (lexer.pushAt count .key).tokens = token :: .key :: tokens := by
    rw [pushAt, later, flowing.tokens_eq]
    rfl
  have named : Flowing (depth + 1) false (token :: .key :: tokens) (first :: behind)
      { lexer.pushAt count .key with candidate := none, keyAllowed := false } :=
    { flowing with
      tokens_eq := keyed
      allowed := fun keys => absurd keys Bool.false_ne_true
      optional := nofun }
  rw [Lexer.value, remembered]
  simp only [openBlockAt, deep, Bool.true_or, ↓reduceIte]
  exact ⟨_, rfl, named.takeOne .value⟩

/-! ### Steps by their first characters -/

section ReadToken

variable {behind : List Char}

/-- The brackets that open a flow collection. -/
inductive Opening : Char → Token → Prop
  | sequence : Opening '[' .openFlowSequence
  | mapping : Opening '\x7b' .openFlowMapping

/-- The brackets that close a flow collection. -/
inductive Closing : Char → Token → Prop
  | sequence : Closing ']' .closeFlowSequence
  | mapping : Closing '\x7d' .closeFlowMapping

theorem Opening.readToken {first : Char} {token : Token} (opening : Opening first token)
    (begins : lexer.rest = first :: behind) :
    lexer.readToken first behind = lexer.openFlow token := by
  cases opening <;> simp [Lexer.readToken, begins, atDocumentStart, atDocumentEnd]

theorem Closing.readToken {first : Char} {token : Token} (closing : Closing first token)
    (begins : lexer.rest = first :: behind) :
    lexer.readToken first behind = lexer.closeFlow token := by
  cases closing <;> simp [Lexer.readToken, begins, atDocumentStart, atDocumentEnd]

theorem readToken_comma (begins : lexer.rest = ',' :: behind) :
    lexer.readToken ',' behind = lexer.comma := by
  simp [readToken, begins, atDocumentStart, atDocumentEnd]

theorem readToken_quote (begins : lexer.rest = '"' :: behind) :
    lexer.readToken '"' behind = lexer.quotedScalar scanDoubleQuoted := by
  simp [readToken, begins, atDocumentStart, atDocumentEnd]

theorem readToken_colon (begins : lexer.rest = ':' :: behind) (deep : lexer.inFlow = true) :
    lexer.readToken ':' behind = lexer.value := by
  simp [readToken, begins, atDocumentStart, atDocumentEnd, deep]

/-- A plain scalar may begin with a character of a name, but not with a hyphen alone. -/
theorem atPlainStart_cons {first : Char} {behind : List Char} (name : isNameChar first = true)
    (goesOn : first = '-' → atWordEnd behind = false) :
    atPlainStart true (first :: behind) = true := by
  by_cases hyphen : first = '-'
  · have ends := goesOn hyphen
    cases behind with
    | nil => cases ends
    | cons c behind =>
        rw [atWordEnd, Bool.or_eq_false_iff] at ends
        simp [atPlainStart, hyphen, ends.1]
  · obtain ⟨ink, -, plain, notColon⟩ := plain_of_isNameChar name
    have other : ∀ other ∈ ['?', '#', '&', '*', '!', '|', '>', '\'', '"', '%', '@', '\x60'],
        first ≠ other := ne_of_isNameChar name rfl
    simp only [List.forall_mem_cons] at other
    simp [atPlainStart, isIndicator, ink, plain, notColon, hyphen, other]

theorem readToken_word {first : Char} (name : isNameChar first = true)
    (begins : lexer.rest = first :: behind) (deep : lexer.inFlow = true)
    (inLine : 0 < lexer.place.column) (goesOn : first = '-' → atWordEnd behind = false) :
    lexer.readToken first behind = lexer.plainScalar := by
  have column : lexer.place.column ≠ 0 := Nat.ne_of_gt inLine
  have other : ∀ other ∈ ['[', '\x7b', ']', '\x7d', ',', '?', ':', '*', '&', '!', '|', '>', '\'',
      '"'], first ≠ other := ne_of_isNameChar name rfl
  simp only [List.forall_mem_cons] at other
  have item : ¬ (first = '-' ∧ atWordEnd behind = true) := by
    rintro ⟨hyphen, ends⟩
    rw [goesOn hyphen] at ends
    cases ends
  have starts : atPlainStart true lexer.rest = true := by
    rw [begins]
    exact atPlainStart_cons name goesOn
  simp [readToken, column, other, deep, item, starts]

end ReadToken

/-! ## Single tokens of compact text -/

/-- Reading leads to a state in `depth` flow collections. -/
def Arrives (depth : Nat) (keys : Bool) (tokens : List Token) (rest : List Char)
    (lexer : Lexer) : Prop :=
  ∃ next, Leads lexer next ∧ Flowing depth keys tokens rest next

theorem Flowing.arrives (flowing : Flowing depth keys tokens rest lexer) :
    Arrives depth keys tokens rest lexer :=
  ⟨lexer, .refl, flowing⟩

theorem Arrives.andThen (arrives : Arrives depth keys tokens rest lexer) {depth' : Nat}
    {keys' : Bool} {tokens' : List Token} {rest' : List Char}
    (further : ∀ {next}, Flowing depth keys tokens rest next →
      Arrives depth' keys' tokens' rest' next) : Arrives depth' keys' tokens' rest' lexer := by
  obtain ⟨middle, first, flowing⟩ := arrives
  obtain ⟨next, second, flowing⟩ := further flowing
  exact ⟨next, first.trans second, flowing⟩

section Steps

variable {first : Char} {behind : List Char}

theorem Flowing.arrives_of_readToken (flowing : Flowing depth keys tokens (first :: behind) lexer)
    (ink : isInk first = true) {depth' : Nat} {keys' : Bool} {tokens' : List Token}
    {rest' : List Char}
    (read : ∃ next, lexer.forget.readToken first behind = some next ∧
      Flowing depth' keys' tokens' rest' next)
    (shorter : rest'.length ≤ behind.length) : Arrives depth' keys' tokens' rest' lexer := by
  obtain ⟨next, read, arrived⟩ := read
  rw [← arrived.rest_eq] at shorter
  exact ⟨next, .single (flowing.reads ink read shorter), arrived⟩

theorem Flowing.opens {token : Token} (opening : Opening first token)
    (flowing : Flowing depth keys tokens (first :: behind) lexer) :
    Arrives (depth + 1) true (token :: tokens) behind lexer := by
  have ink : isInk first = true := by cases opening <;> rfl
  refine flowing.arrives_of_readToken ink ?_ (Nat.le_refl _)
  rw [opening.readToken flowing.forget.rest_eq]
  exact flowing.forget.openFlow token

theorem Flowing.closes {token : Token} (closing : Closing first token)
    (flowing : Flowing (depth + 1) keys tokens (first :: behind) lexer) :
    Arrives depth false (token :: tokens) behind lexer := by
  have ink : isInk first = true := by cases closing <;> rfl
  refine flowing.arrives_of_readToken ink ?_ (Nat.le_refl _)
  rw [closing.readToken flowing.forget.rest_eq]
  exact flowing.forget.closeFlow token

theorem Flowing.goOn (flowing : Flowing depth keys tokens (',' :: behind) lexer) :
    Arrives depth true (.comma :: tokens) behind lexer := by
  refine flowing.arrives_of_readToken rfl ?_ (Nat.le_refl _)
  rw [readToken_comma flowing.forget.rest_eq]
  exact flowing.forget.comma

/-- A word that is no hyphen alone is read as a plain scalar. -/
theorem Flowing.word {more : List Char} (names : ∀ c ∈ first :: more, isNameChar c = true)
    (goesOn : first = '-' → more ≠ []) (delimited : Delimited rest)
    (flowing : Flowing (depth + 1) keys tokens (first :: more ++ rest) lexer) :
    Arrives (depth + 1) false (.scalar (first :: more) true :: tokens) rest lexer := by
  obtain ⟨name, others⟩ := List.forall_mem_cons.mp names
  obtain ⟨inkless, inLine, -⟩ := plain_of_isNameChar name
  have ink : isInk first = true := by
    have other : ∀ other ∈ ['#', byteOrderMark], first ≠ other := ne_of_isNameChar name rfl
    simp only [List.forall_mem_cons] at other
    simp [isInk, inkless, inLine, other]
  have further : first = '-' → atWordEnd (more ++ rest) = false := by
    intro hyphen
    cases more with
    | nil => exact absurd rfl (goesOn hyphen)
    | cons c more =>
        obtain ⟨ink, inLine, -⟩ := plain_of_isNameChar (others c List.mem_cons_self)
        simp [atWordEnd, ink, inLine]
  refine flowing.arrives_of_readToken ink ?_ (by simp)
  rw [readToken_word name flowing.forget.rest_eq flowing.forget.inFlow
    (flowing.forget.inLine (Nat.succ_pos _)) further]
  exact flowing.forget.plainScalar names delimited

/-- A quoted text is read as a scalar, in front of which a key may have begun. -/
theorem Flowing.quoted {text : String} (ascii : ∀ c ∈ text.toList, c.toNat ≤ 0x7E)
    (flowing : Flowing depth keys tokens (quote text ++ rest) lexer) :
    ∃ next, Reads lexer next ∧ Flowing depth false (.scalar text.toList false :: tokens) rest next ∧
      next.place = lexer.place.skip (quote text).length ∧
      next.tokenCount = lexer.tokenCount + 1 ∧
      (keys = true → next.candidate = some ⟨lexer.tokenCount, lexer.place, false⟩) := by
  obtain ⟨next, read, arrived, remembered⟩ := flowing.forget.quotedScalar ascii
  refine ⟨next, Flowing.reads flowing rfl ?_ ?_, arrived, remembered⟩
  · rw [readToken_quote flowing.forget.rest_eq, read]
  · exact arrived.rest_eq ▸ (List.suffix_append _ _).length_le

theorem Flowing.string {text : String} (ascii : ∀ c ∈ text.toList, c.toNat ≤ 0x7E)
    (flowing : Flowing depth keys tokens (quote text ++ rest) lexer) :
    Arrives depth false (.scalar text.toList false :: tokens) rest lexer := by
  obtain ⟨next, reads, arrived, -⟩ := flowing.quoted ascii
  exact ⟨next, .single reads, arrived⟩

/-- A quoted text that is not too long is read as a key, together with its colon. -/
theorem Flowing.name {text : String} (ascii : ∀ c ∈ text.toList, c.toNat ≤ 0x7E)
    (short : (quote text).length ≤ longestKey)
    (flowing : Flowing (depth + 1) true tokens (quote text ++ ':' :: rest) lexer) :
    Arrives (depth + 1) false (.value :: .scalar text.toList false :: .key :: tokens) rest
      lexer := by
  obtain ⟨middle, reads, arrived, place, count, remembered⟩ := flowing.quoted ascii
  -- The key is still near when its colon is read.
  have near : isTooFar lexer.place middle.place = false := by
    rw [place]
    simp [isTooFar, Place.skip, short]
  have kept : middle.forget.candidate = some ⟨lexer.tokenCount, lexer.place, false⟩ := by
    rw [Lexer.forget, remembered rfl]
    simp [near]
  have colon : Arrives (depth + 1) false (.value :: .scalar text.toList false :: .key :: tokens)
      rest middle := by
    refine arrived.arrives_of_readToken rfl ?_ (Nat.le_refl _)
    rw [readToken_colon arrived.forget.rest_eq arrived.forget.inFlow]
    exact arrived.forget.value kept count
  obtain ⟨next, leads, flowing⟩ := colon
  exact ⟨next, .head reads leads, flowing⟩

end Steps

end Flowing

end Lexer

end Runbook.Yaml
