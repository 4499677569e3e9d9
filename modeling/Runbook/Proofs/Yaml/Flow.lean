import Runbook.Proofs.Portable
import Runbook.Proofs.Yaml.Lexer

/-!
# Compact JSON text as a flow mapping

The tokens of the compact text of an object, with a line of comment behind it
(`Yaml.tokens_object`). Every name is found as a key, and every value is the token or the tokens
that one expects.
-/

namespace Runbook.Yaml

open Json (IsAscii IsKey Portable Delimited chars itemsChars membersChars quote)

/-! ## The tokens of a value -/

/-- The tokens of the name of a member. -/
def nameTokens (name : String) : List Token := [.key, .scalar name.toList false, .value]

mutual

/-- The tokens of a value in flow style. -/
def flowTokens : Json → List Token
  | .string s => [.scalar s.toList false]
  | .array [] => [.openFlowSequence, .closeFlowSequence]
  | .array (item :: items) => .openFlowSequence :: (flowTokens item ++ itemsTokens items)
  | .object [] => [.openFlowMapping, .closeFlowMapping]
  | .object ((name, value) :: members) =>
    .openFlowMapping :: (nameTokens name ++ (flowTokens value ++ membersTokens members))
  | word => [.scalar (chars word) true]

/-- The tokens from behind an item to the end of its array. -/
def itemsTokens : List Json → List Token
  | [] => [.closeFlowSequence]
  | item :: items => .comma :: (flowTokens item ++ itemsTokens items)

/-- The tokens from behind a member to the end of its object. -/
def membersTokens : List (String × Json) → List Token
  | [] => [.closeFlowMapping]
  | (name, value) :: members =>
    .comma :: (nameTokens name ++ (flowTokens value ++ membersTokens members))

end

namespace Lexer

/-! ## Reading a value -/

/-- Inside flow collections the text of the value is read as its tokens. -/
def Lexes (value : Json) : Prop :=
  ∀ {depth : Nat} {keys : Bool} {tokens : List Token} {rest : List Char} {lexer : Lexer},
    Delimited rest → Flowing (depth + 1) keys tokens (chars value ++ rest) lexer →
      Arrives (depth + 1) false ((flowTokens value).reverse ++ tokens) rest lexer

section Containers

variable {depth : Nat} {keys : Bool} {tokens : List Token} {rest : List Char} {lexer : Lexer}

/-- The rest of an array is read from behind one of its items. -/
theorem Flowing.items {items : List Json} (each : ∀ item ∈ items, Lexes item)
    (flowing : Flowing (depth + 1) keys tokens (itemsChars items ++ rest) lexer) :
    Arrives depth false ((itemsTokens items).reverse ++ tokens) rest lexer := by
  -- On the items; tokens are kept newest first, so those of each item come in front of the others.
  induction items generalizing keys tokens lexer with
  | nil => exact flowing.closes .sequence
  | cons item items ih =>
      obtain ⟨first, later⟩ := List.forall_mem_cons.mp each
      rw [itemsChars, List.cons_append, List.append_assoc] at flowing
      refine flowing.goOn.andThen fun flowing => ?_
      refine (first (Json.delimited_itemsChars items rest) flowing).andThen fun flowing => ?_
      have done := ih later flowing
      rw [itemsTokens, List.reverse_cons, List.reverse_append, List.append_assoc, List.append_assoc]
      exact done

/-- A member of an object is read as its name and its value. -/
theorem Flowing.member {name : String} (key : IsKey name) {value : Json} (lexes : Lexes value)
    (delimited : Delimited rest)
    (flowing : Flowing (depth + 1) true tokens (quote name ++ ':' :: (chars value ++ rest)) lexer) :
    Arrives (depth + 1) false ((nameTokens name ++ flowTokens value).reverse ++ tokens) rest
      lexer := by
  refine (flowing.name key.ascii key.short).andThen fun flowing => ?_
  rw [List.reverse_append, List.append_assoc]
  exact lexes delimited flowing

/-- The rest of an object is read from behind one of its members. -/
theorem Flowing.members {members : List (String × Json)}
    (named : ∀ member ∈ members, IsKey member.1) (each : ∀ member ∈ members, Lexes member.2)
    (flowing : Flowing (depth + 1) keys tokens (membersChars members ++ rest) lexer) :
    Arrives depth false ((membersTokens members).reverse ++ tokens) rest lexer := by
  induction members generalizing keys tokens lexer with
  | nil => exact flowing.closes .mapping
  | cons member members ih =>
      obtain ⟨name, value⟩ := member
      obtain ⟨key, named⟩ := List.forall_mem_cons.mp named
      obtain ⟨first, later⟩ := List.forall_mem_cons.mp each
      rw [membersChars, List.cons_append, List.append_assoc, List.cons_append, List.append_assoc]
        at flowing
      refine flowing.goOn.andThen fun flowing => ?_
      refine (flowing.member key first (Json.delimited_membersChars members rest)).andThen
        fun flowing => ?_
      have done := ih named later flowing
      rw [membersTokens, ← List.append_assoc, List.reverse_cons, List.reverse_append,
        List.append_assoc, List.append_assoc]
      exact done

/-- An object is read as a flow mapping, whatever follows it. -/
theorem Flowing.object {members : List (String × Json)}
    (named : ∀ member ∈ members, IsKey member.1) (each : ∀ member ∈ members, Lexes member.2)
    (flowing : Flowing depth keys tokens (chars (.object members) ++ rest) lexer) :
    Arrives depth false ((flowTokens (.object members)).reverse ++ tokens) rest lexer := by
  cases members with
  | nil => exact (flowing.opens .mapping).andThen fun flowing => flowing.closes .mapping
  | cons member members =>
      obtain ⟨name, value⟩ := member
      obtain ⟨key, named⟩ := List.forall_mem_cons.mp named
      obtain ⟨first, later⟩ := List.forall_mem_cons.mp each
      rw [chars, List.cons_append, List.append_assoc, List.cons_append, List.append_assoc]
        at flowing
      refine (flowing.opens .mapping).andThen fun flowing => ?_
      refine (flowing.member key first (Json.delimited_membersChars members rest)).andThen
        fun flowing => ?_
      have done := flowing.members named later
      rw [flowTokens, ← List.append_assoc, List.reverse_cons, List.reverse_append,
        List.append_assoc, List.append_assoc]
      exact done

theorem lexes_array {items : List Json} (each : ∀ item ∈ items, Lexes item) :
    Lexes (.array items) := by
  intro depth keys tokens rest lexer delimited flowing
  cases items with
  | nil => exact (flowing.opens .sequence).andThen fun flowing => flowing.closes .sequence
  | cons item items =>
      obtain ⟨first, later⟩ := List.forall_mem_cons.mp each
      rw [chars, List.cons_append, List.append_assoc] at flowing
      refine (flowing.opens .sequence).andThen fun flowing => ?_
      refine (first (Json.delimited_itemsChars items rest) flowing).andThen fun flowing => ?_
      have done := flowing.items later
      rw [flowTokens, List.reverse_cons, List.reverse_append, List.append_assoc, List.append_assoc]
      exact done

end Containers

/-- The text of each value that both formats can write is read as the tokens of the value. -/
theorem lexes_of_portable {room : Nat} {value : Json} (portable : Portable room value) :
    Lexes value := by
  induction portable with
  | null =>
      exact fun delimited flowing => flowing.word (List.all_eq_true.mp rfl) (by decide) delimited
  | bool value =>
      cases value <;> exact fun delimited flowing =>
        flowing.word (List.all_eq_true.mp rfl) (by decide) delimited
  | @int _ n =>
      intro depth keys tokens rest lexer delimited flowing
      obtain ⟨first, more, written, names, goesOn⟩ := Json.exists_intChars_eq n
      have same : chars (.number (.int n)) = first :: more := written
      rw [same] at flowing
      rw [flowTokens, same]
      · exact flowing.word names goesOn delimited
      all_goals nofun
  | string ascii => exact fun _ flowing => flowing.string ascii
  | array _ _ ih => exact lexes_array ih
  | object _ _ named _ ih => exact fun _ flowing => flowing.object named ih

end Lexer

/-! ## Comments -/

/-- The characters that stay as they are when a stream is read. -/
structure IsKept (c : Char) : Prop where
  allowed : isAllowed c = true
  notReturn : c ≠ '\r'
  notNext : c ≠ '\u0085'

/-- A line of comment, with or without a line feed at its end. -/
inductive IsComment : List Char → Prop
  | unended {body : List Char} (kept : ∀ c ∈ body, IsKept c)
      (inLine : ∀ c ∈ body, isBreak c = false) : IsComment ('#' :: body)
  | ended {body : List Char} (kept : ∀ c ∈ body, IsKept c)
      (inLine : ∀ c ∈ body, isBreak c = false) : IsComment ('#' :: (body ++ ['\n']))

section Comments

variable {line : List Char}

theorem IsKept.of_isPrintable {c : Char} (printable : isPrintable c = true) : IsKept c := by
  obtain ⟨least, greatest⟩ := isPrintable_iff.mp printable
  refine ⟨?_, ?_, ?_⟩
  · simp [isAllowed, least, greatest]
  · rintro rfl
    exact absurd least (by decide)
  · rintro rfl
    exact absurd greatest (by decide)

theorem isKept_lineFeed : IsKept '\n' := ⟨rfl, by decide, by decide⟩

theorem IsComment.isKept (comment : IsComment line) : ∀ c ∈ line, IsKept c := by
  have mark : IsKept '#' := .of_isPrintable rfl
  cases comment with
  | unended kept => exact List.forall_mem_cons.mpr ⟨mark, kept⟩
  | ended kept =>
      exact List.forall_mem_cons.mpr ⟨mark, List.forall_mem_append.mpr
        ⟨kept, List.forall_mem_singleton.mpr isKept_lineFeed⟩⟩

namespace Lexer

/-- Comments are skipped up to the end of the line. -/
theorem exists_skipGap_append {inFlow : Bool} {body : List Char}
    (inLine : ∀ c ∈ body, isBreak c = false) (allowed : Bool) (place : Place) (rest : List Char) :
    ∃ behind, skipGap inFlow true allowed place (body ++ rest) =
      skipGap inFlow true allowed behind rest := by
  induction body generalizing place with
  | nil => exact ⟨place, rfl⟩
  | cons c body ih =>
      obtain ⟨first, later⟩ := List.forall_mem_cons.mp inLine
      obtain ⟨behind, same⟩ := ih later (place.next c)
      refine ⟨behind, ?_⟩
      rw [List.cons_append, skipGap]
      simp [first, same]

theorem exists_skipGap_comment (comment : IsComment line) (inFlow allowed : Bool) (place : Place) :
    ∃ keys behind, skipGap inFlow false allowed place ('\n' :: line) = ⟨keys, behind, []⟩ := by
  have begins (rest : List Char) : skipGap inFlow false allowed place ('\n' :: '#' :: rest) =
      skipGap inFlow true (allowed || !inFlow) (place.nextLine.next '#') rest := by
    rw [skipGap]
    simp [isBreak, skipGap]
  cases comment with
  | @unended body _ inLine =>
      obtain ⟨behind, same⟩ :=
        exists_skipGap_append inLine (allowed || !inFlow) (place.nextLine.next '#') []
      rw [List.append_nil] at same
      exact ⟨_, behind, by rw [begins, same]; rfl⟩
  | @ended body _ inLine =>
      obtain ⟨behind, same⟩ :=
        exists_skipGap_append inLine (allowed || !inFlow) (place.nextLine.next '#') ['\n']
      exact ⟨_, _, by rw [begins, same]; rfl⟩

variable {keys : Bool} {tokens : List Token} {lexer : Lexer}

theorem Flowing.finish {rest : List Char} (flowing : Flowing 0 keys tokens rest lexer) :
    ∃ last, lexer.finish = some last ∧ last.tokens = .streamEnd :: tokens := by
  rw [Lexer.finish, flowing.unindent, flowing.dropCandidate]
  exact ⟨_, rfl, congrArg (Token.streamEnd :: ·) flowing.tokens_eq⟩

/-- The stream ends behind a comment. -/
theorem Flowing.run_comment (comment : IsComment line)
    (flowing : Flowing 0 keys tokens ('\n' :: line) lexer) :
    ∃ last, (∀ fuel, run (fuel + 1) lexer = some last) ∧ last.tokens = .streamEnd :: tokens := by
  obtain ⟨allowed, behind, skips⟩ :=
    exists_skipGap_comment comment lexer.inFlow lexer.keyAllowed lexer.place
  have next : lexer.toNextToken =
      { lexer with place := behind, rest := [], keyAllowed := allowed } := by
    rw [toNextToken, flowing.rest_eq, skips]
    rfl
  have ended : Flowing 0 false tokens []
      { lexer with place := behind, rest := [], keyAllowed := allowed } :=
    { flowing with
      rest_eq := rfl
      allowed := fun keys => absurd keys Bool.false_ne_true
      inLine := fun deep => absurd deep (Nat.lt_irrefl 0) }
  obtain ⟨last, finish, read⟩ := ended.forget.finish
  refine ⟨last, fun fuel => ?_, read⟩
  rw [run, next, ended.expire, Option.bind_eq_bind, Option.bind_some]
  dsimp only
  rw [ended.forget.unindent, ended.forget.rest_eq]
  exact finish

end Lexer

/-! ## Streams -/

/-- A text without other spellings of line feeds stays as it is. -/
theorem unifyBreaks_eq_self {text : List Char} (kept : ∀ c ∈ text, IsKept c) :
    unifyBreaks text = text := by
  induction text with
  | nil => rfl
  | cons c text ih =>
      obtain ⟨first, later⟩ := List.forall_mem_cons.mp kept
      have := first.notReturn
      have := first.notNext
      rw [unifyBreaks, ih later]
      all_goals simp_all

/-- **The tokens of the compact text of an object** in front of a comment. -/
theorem tokens_object {room : Nat} {members : List (String × Json)}
    (portable : Portable room (.object members)) (comment : IsComment line) :
    tokens (chars (.object members) ++ '\n' :: line) =
      some (flowTokens (.object members) ++ [.streamEnd]) := by
  have kept : ∀ c ∈ chars (.object members) ++ '\n' :: line, IsKept c := by
    refine List.forall_mem_append.mpr
      ⟨fun c member => ?_, List.forall_mem_cons.mpr ⟨isKept_lineFeed, comment.isKept⟩⟩
    exact .of_isPrintable (portable.isPrintable_of_mem_chars c member)
  have allowed : (chars (.object members) ++ '\n' :: line).all isAllowed = true :=
    List.all_eq_true.mpr fun c member => (kept c member).allowed
  obtain ⟨next, leads, flowing⟩ : Lexer.Arrives 0 false
      ((flowTokens (.object members)).reverse ++ []) ('\n' :: line)
      (.start (chars (.object members) ++ '\n' :: line)) := by
    cases portable with
    | object _ _ named each =>
        exact (Lexer.Flowing.start _).object named
          fun member listed => Lexer.lexes_of_portable (each member listed)
  obtain ⟨last, runs, read⟩ := flowing.run_comment comment
  have finishes : ∀ fuel, next.rest.length < fuel → next.run fuel = some last := by
    intro fuel enough
    obtain ⟨fuel, rfl⟩ := Nat.exists_eq_succ_of_ne_zero (Nat.ne_zero_of_lt enough)
    exact runs fuel
  have ran : (Lexer.start (chars (.object members) ++ '\n' :: line)).run
      ((chars (.object members) ++ '\n' :: line).length + 1) = some last :=
    Lexer.run_of_leads leads finishes _ (Nat.lt_succ_self _)
  rw [tokens, if_pos allowed, unifyBreaks_eq_self kept]
  dsimp only
  rw [ran, Option.bind_eq_bind, Option.bind_some, read]
  simp

end Comments

end Runbook.Yaml
