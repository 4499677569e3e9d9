import Mathlib.Data.List.Chain
import Runbook.Http.Client

/-!
# Courses of requests

What sending a request comes to is a course of exchanges with the network, all within the limits of
the request. Each exchange but the last one leads to the request of the next one, and the last one
decides (`transfer_course`).
-/

namespace Runbook.Http

variable {σ : Type}

/-- A request, and what came of it. -/
structure Exchange where
  request : Outbound
  answer : Except Disruption Response

/-- The exchanges that a network makes one after the other, all within the same limits. -/
inductive Network.Makes (network : Network σ) (limits : Limits) : σ → List Exchange → σ → Prop
  | nil {state : σ} : Makes network limits state [] state
  | cons {outbound : Outbound} {answer : Except Disruption Response} {before between after : σ}
      {exchanges : List Exchange}
      (exchanged : network.exchange limits outbound before = (answer, between))
      (later : Makes network limits between exchanges after) :
      Makes network limits before (⟨outbound, answer⟩ :: exchanges) after

/-- The answer makes the client send another request. -/
def Exchange.LeadsTo (exchange : Exchange) (again : Outbound) : Prop :=
  ∃ response, exchange.answer = .ok response ∧
    Redirect.next exchange.request response = some again

/-- How an answer that leads no further decides on a request. A response that has arrived in full is
judged by its own status. -/
inductive Decides (limits : Limits) (request : HttpRequest) :
    Exchange → Except ExecutionError Output → Prop
  | disrupted {outbound : Outbound} {cause : Disruption} :
      Decides limits request ⟨outbound, .error cause⟩
        (.error (failureOf limits (TransferError.disrupted outbound.url cause).message cause))
  | broken {outbound : Outbound} {response : Response} {cause : Disruption}
      (body : response.body = .error cause) :
      Decides limits request ⟨outbound, .ok response⟩
        (.error (failureOf limits "error decoding response body" cause))
  | accepted {outbound : Outbound} {response : Response} {bytes : List UInt8}
      (body : response.body = .ok bytes) (accepts : request.accepts response.status = true) :
      Decides limits request ⟨outbound, .ok response⟩
        (.ok ⟨Charset.bodyText response.contentType? bytes, some response.status,
          response.headers.collect, none⟩)
  | refused {outbound : Outbound} {response : Response} {bytes : List UInt8}
      (body : response.body = .ok bytes) (refuses : request.accepts response.status = false) :
      Decides limits request ⟨outbound, .ok response⟩
        (.error (.unexpectedStatus response.status
          (truncate (Charset.bodyText response.contentType? bytes) mostQuoted)))

/-- What is made of a course of exchanges with so many redirects at most. -/
inductive Ends (limits : Limits) (request : HttpRequest) (redirects : Nat) (outbound : Outbound)
    (exchanges : List Exchange) : Except ExecutionError Output → Prop
  | refused (nothing : exchanges = []) (foreign : outbound.url.isWeb = false) :
      Ends limits request redirects outbound exchanges
        (.error (.request (TransferError.notWeb outbound.url).message))
  | decided {last : Exchange} {result : Except ExecutionError Output}
      (ends : exchanges.getLast? = some last) (final : ∀ again, ¬ last.LeadsTo again)
      (decides : Decides limits request last result) :
      Ends limits request redirects outbound exchanges result
  | astray {last : Exchange} {again : Outbound} (ends : exchanges.getLast? = some last)
      (leads : last.LeadsTo again) (foreign : again.url.isWeb = false) :
      Ends limits request redirects outbound exchanges
        (.error (.request (TransferError.notWeb again.url).message))
  | exhausted {last : Exchange} {again : Outbound} (ends : exchanges.getLast? = some last)
      (leads : last.LeadsTo again) (full : exchanges.length = redirects + 1) :
      Ends limits request redirects outbound exchanges
        (.error (.request (TransferError.tooManyRedirects last.request.url).message))

/-- What is made of the answer of a transfer. -/
def finish (limits : Limits) (request : HttpRequest) (answer : Except TransferError Response) :
    Except ExecutionError Output :=
  match answer with
  | .error cause => .error (transferFailure limits cause)
  | .ok response => judge limits request response

theorem Network.Makes.head {network : Network σ} {limits : Limits} {state after : σ}
    {exchange : Exchange} {exchanges : List Exchange}
    (made : network.Makes limits state (exchange :: exchanges) after) :
    ∃ between, network.exchange limits exchange.request state = (exchange.answer, between) ∧
      network.Makes limits between exchanges after := by
  cases made with
  | cons exchanged later => exact ⟨_, exchanged, later⟩

/-- A course of exchanges, the requests that it puts on the wire, and what is made of it. -/
structure Course (network : Network σ) (limits : Limits) (request : HttpRequest)
    (redirects : Nat) (outbound : Outbound) (state : σ) (exchanges : List Exchange)
    (sent : List Outbound) (result : Except ExecutionError Output) (after : σ) : Prop where
  made : network.Makes limits state exchanges after
  sent : sent = exchanges.map Exchange.request
  web : ∀ exchange ∈ exchanges, exchange.request.url.isWeb = true
  first : ∀ exchange ∈ exchanges.head?, exchange.request = outbound
  chained : exchanges.IsChain fun earlier later => earlier.LeadsTo later.request
  bounded : exchanges.length ≤ redirects + 1
  ended : Ends limits request redirects outbound exchanges result

variable {network : Network σ} {limits : Limits} {request : HttpRequest} {redirects : Nat}
  {outbound : Outbound} {state after : σ}

theorem decides_judge {response : Response} :
    Decides limits request ⟨outbound, .ok response⟩ (judge limits request response) := by
  unfold judge
  split
  · rename_i cause broken
    exact .broken broken
  · rename_i bytes arrived
    dsimp only
    split_ifs with accepts
    · exact .accepted arrived accepts
    · exact .refused arrived (Bool.not_eq_true _ ▸ accepts)

/-- An exchange that leads on may stand in front of a course. -/
theorem Ends.cons {exchange : Exchange} {again : Outbound} {exchanges : List Exchange}
    {result : Except ExecutionError Output} (leads : exchange.LeadsTo again)
    (ended : Ends limits request redirects again exchanges result) :
    Ends limits request (redirects + 1) outbound (exchange :: exchanges) result := by
  have kept : ∀ {last}, exchanges.getLast? = some last →
      (exchange :: exchanges).getLast? = some last := by
    intro last ends
    rw [List.getLast?_cons, ends, Option.getD_some]
  cases ended with
  | refused nothing foreign =>
      subst nothing
      exact .astray rfl leads foreign
  | decided ends final decides => exact .decided (kept ends) final decides
  | astray ends leads foreign => exact .astray (kept ends) leads foreign
  | exhausted ends leads full =>
      exact .exhausted (kept ends) leads (congrArg (· + 1) full)

section Ends

variable {exchanges : List Exchange} {last : Exchange} {result : Except ExecutionError Output}

theorem Ends.foreign (ended : Ends limits request redirects outbound [] result) :
    outbound.url.isWeb = false := by
  cases ended with
  | refused _ foreign => exact foreign
  | decided ends => cases ends
  | astray ends => cases ends
  | exhausted ends => cases ends

/-- An exchange at the end that leads no further decides. -/
theorem Ends.decides (ended : Ends limits request redirects outbound exchanges result)
    (ends : exchanges.getLast? = some last) (final : ∀ again, ¬ last.LeadsTo again) :
    Decides limits request last result := by
  cases ended with
  | refused nothing =>
      subst nothing
      cases ends
  | decided same _ decides =>
      cases ends.symm.trans same
      exact decides
  | astray same leads =>
      cases ends.symm.trans same
      exact absurd leads (final _)
  | exhausted same leads =>
      cases ends.symm.trans same
      exact absurd leads (final _)

/-- A course that still has redirects left ends where it leads no further, or to an address that is
none of the web. -/
theorem Ends.final (ended : Ends limits request redirects outbound exchanges result)
    (ends : exchanges.getLast? = some last) (room : exchanges.length ≤ redirects)
    (web : ∀ url, result ≠ .error (.request (TransferError.notWeb url).message)) :
    ∀ again, ¬ last.LeadsTo again := by
  cases ended with
  | refused => exact absurd rfl (web _)
  | decided same final =>
      cases ends.symm.trans same
      exact final
  | astray => exact absurd rfl (web _)
  | exhausted _ _ full => omega

end Ends

section Transfer

variable {response : Response} {cause : Disruption} {again : Outbound}

/-- A request to an address that is none of the web is not sent. -/
theorem Course.refused (foreign : outbound.url.isWeb = false) :
    Course network limits request redirects outbound state [] []
      (finish limits request (.error (.notWeb outbound.url))) state where
  made := .nil
  sent := rfl
  web := fun _ member => nomatch member
  first := fun _ member => nomatch member
  chained := .nil
  bounded := Nat.zero_le _
  ended := .refused rfl foreign

theorem Course.disrupted (web : outbound.url.isWeb = true)
    (exchanged : network.exchange limits outbound state = (.error cause, after)) :
    Course network limits request redirects outbound state [⟨outbound, .error cause⟩]
      [outbound] (finish limits request (.error (.disrupted outbound.url cause))) after where
  made := .cons exchanged .nil
  sent := rfl
  web := List.forall_mem_singleton.mpr web
  first := by
    rintro _ ⟨⟩
    rfl
  chained := .singleton _
  bounded := Nat.le_add_left 1 redirects
  ended := by
    refine .decided rfl ?_ .disrupted
    rintro again ⟨_, answered, -⟩
    cases answered

theorem Course.answered (web : outbound.url.isWeb = true)
    (exchanged : network.exchange limits outbound state = (.ok response, after))
    (final : Redirect.next outbound response = none) :
    Course network limits request redirects outbound state [⟨outbound, .ok response⟩]
      [outbound] (finish limits request (.ok response)) after where
  made := .cons exchanged .nil
  sent := rfl
  web := List.forall_mem_singleton.mpr web
  first := by
    rintro _ ⟨⟩
    rfl
  chained := .singleton _
  bounded := Nat.le_add_left 1 redirects
  ended := by
    refine .decided rfl ?_ decides_judge
    rintro again ⟨_, ⟨⟩, leads⟩
    cases final.symm.trans leads

theorem Course.exhausted (web : outbound.url.isWeb = true)
    (exchanged : network.exchange limits outbound state = (.ok response, after))
    (leads : Redirect.next outbound response = some again) :
    Course network limits request 0 outbound state [⟨outbound, .ok response⟩]
      [outbound] (finish limits request (.error (.tooManyRedirects outbound.url))) after where
  made := .cons exchanged .nil
  sent := rfl
  web := List.forall_mem_singleton.mpr web
  first := by
    rintro _ ⟨⟩
    rfl
  chained := .singleton _
  bounded := Nat.le_refl 1
  ended := @Ends.exhausted limits request 0 outbound _ ⟨outbound, .ok response⟩ again rfl
    ⟨response, rfl, leads⟩ rfl

/-- A response that leads on, and the course from where it leads. -/
theorem Course.redirected {exchanges : List Exchange} {sent : List Outbound}
    {result : Except ExecutionError Output} {between : σ} (web : outbound.url.isWeb = true)
    (exchanged : network.exchange limits outbound state = (.ok response, between))
    (leads : Redirect.next outbound response = some again)
    (course : Course network limits request redirects again between exchanges sent result after) :
    Course network limits request (redirects + 1) outbound state
      (⟨outbound, .ok response⟩ :: exchanges) (outbound :: sent) result after where
  made := .cons exchanged course.made
  sent := congrArg (List.cons outbound) course.sent
  web := List.forall_mem_cons.mpr ⟨web, course.web⟩
  first := by
    rintro _ ⟨⟩
    rfl
  chained := by
    refine List.isChain_cons.mpr ⟨fun next member => ?_, course.chained⟩
    rw [course.first next member]
    exact ⟨response, rfl, leads⟩
  bounded := Nat.succ_le_succ course.bounded
  ended := course.ended.cons ⟨response, rfl, leads⟩

end Transfer

/-- **Transfers are courses of exchanges.** -/
theorem transfer_course (network : Network σ) (limits : Limits) (request : HttpRequest)
    (redirects : Nat) (outbound : Outbound) (state : σ) :
    let done := transfer network limits redirects outbound state
    ∃ exchanges, Course network limits request redirects outbound state exchanges done.sent
      (finish limits request done.answer) done.state := by
  -- On the redirects that are left. Each one that is followed changes the request and the state.
  induction redirects generalizing outbound state with
  | zero =>
      rw [transfer]
      split_ifs with foreign
      · exact ⟨_, .refused (Bool.not_eq_true' _ ▸ foreign)⟩
      · have web : outbound.url.isWeb = true := by simpa using foreign
        split
        · rename_i cause after exchanged
          exact ⟨_, .disrupted web exchanged⟩
        · rename_i response after exchanged
          cases next : Redirect.next outbound response with
          | none => exact ⟨_, .answered web exchanged next⟩
          | some again => exact ⟨_, .exhausted web exchanged next⟩
  | succ redirects ih =>
      rw [transfer]
      split_ifs with foreign
      · exact ⟨_, .refused (Bool.not_eq_true' _ ▸ foreign)⟩
      · have web : outbound.url.isWeb = true := by simpa using foreign
        split
        · rename_i cause after exchanged
          exact ⟨_, .disrupted web exchanged⟩
        · rename_i response after exchanged
          cases next : Redirect.next outbound response with
          | none => exact ⟨_, .answered web exchanged next⟩
          | some again =>
              obtain ⟨exchanges, course⟩ := ih again after
              exact ⟨_, course.redirected web exchanged next⟩

/-! ## Breaking off -/

section BreakingOff

variable {result : Except ExecutionError Output} {ms : Milliseconds}

/-- An exchange breaks off: no response comes, or the body of the one that counts stays away. -/
inductive Exchange.BreaksOff (exchange : Exchange) (cause : Disruption) : Prop
  | unanswered (answered : exchange.answer = .error cause)
  | cut {response : Response} (answered : exchange.answer = .ok response)
      (body : response.body = .error cause) (final : ∀ again, ¬ exchange.LeadsTo again)

theorem Exchange.BreaksOff.final {exchange : Exchange} {cause : Disruption}
    (breaks : exchange.BreaksOff cause) (again : Outbound) : ¬ exchange.LeadsTo again := by
  cases breaks with
  | unanswered answered =>
      rintro ⟨response, responded, -⟩
      cases answered.symm.trans responded
  | cut _ _ final => exact final again

theorem Exchange.not_breaksOff {outbound : Outbound} {response : Response} {bytes : List UInt8}
    (body : response.body = .ok bytes) (cause : Disruption) :
    ¬ Exchange.BreaksOff ⟨outbound, .ok response⟩ cause := by
  intro breaks
  cases breaks with
  | unanswered answered => cases answered
  | cut answered broken =>
      cases answered
      cases body.symm.trans broken

/-- The limit that is named for a disruption: of a connection while there is none yet, and of a
response afterwards. -/
def Limits.phase (limits : Limits) (cause : Disruption) : Milliseconds :=
  if cause.connecting then limits.connect else limits.read

theorem failureOf_eq_timeout_iff {message : String} {cause : Disruption} :
    failureOf limits message cause = .timeout ms ↔
      cause.timedOut = true ∧ ms = limits.phase cause := by
  obtain ⟨timedOut, connecting⟩ := cause
  cases timedOut <;> cases connecting <;> simp [failureOf, Limits.phase, eq_comm]

theorem Decides.timeout_iff {exchange : Exchange} (decides : Decides limits request exchange result)
    (final : ∀ again, ¬ exchange.LeadsTo again) :
    result = .error (.timeout ms) ↔
      ∃ cause, exchange.BreaksOff cause ∧ cause.timedOut = true ∧ ms = limits.phase cause := by
  cases decides with
  | @disrupted outbound cause =>
      rw [Except.error.injEq, failureOf_eq_timeout_iff]
      constructor
      · exact fun named => ⟨cause, .unanswered rfl, named⟩
      · rintro ⟨other, breaks, named⟩
        cases breaks with
        | unanswered answered =>
            cases answered
            exact named
        | cut answered => cases answered
  | @broken outbound response cause body =>
      rw [Except.error.injEq, failureOf_eq_timeout_iff]
      constructor
      · exact fun named => ⟨cause, .cut rfl body final, named⟩
      · rintro ⟨other, breaks, named⟩
        cases breaks with
        | unanswered answered => cases answered
        | cut answered broken =>
            cases answered
            cases body.symm.trans broken
            exact named
  | accepted body =>
      refine iff_of_false (fun same => nomatch same) ?_
      exact fun ⟨cause, breaks, _⟩ => Exchange.not_breaksOff body cause breaks
  | refused body =>
      refine iff_of_false (fun same => nomatch Except.error.inj same) ?_
      exact fun ⟨cause, breaks, _⟩ => Exchange.not_breaksOff body cause breaks

/-- A course ends with a timeout just if its last exchange breaks off for want of time. -/
theorem Ends.timeout_iff {exchanges : List Exchange}
    (ended : Ends limits request redirects outbound exchanges result) :
    result = .error (.timeout ms) ↔
      ∃ last cause, exchanges.getLast? = some last ∧ last.BreaksOff cause ∧
        cause.timedOut = true ∧ ms = limits.phase cause := by
  cases ended with
  | refused nothing =>
      subst nothing
      refine iff_of_false (fun same => nomatch Except.error.inj same) ?_
      exact fun ⟨_, _, ends, _⟩ => nomatch ends
  | @decided last _ ends final decides =>
      rw [decides.timeout_iff final]
      constructor
      · exact fun ⟨cause, breaks⟩ => ⟨last, cause, ends, breaks⟩
      · rintro ⟨other, cause, same, breaks⟩
        cases ends.symm.trans same
        exact ⟨cause, breaks⟩
  | astray ends leads =>
      refine iff_of_false (fun same => nomatch Except.error.inj same) ?_
      rintro ⟨other, cause, same, breaks, -⟩
      cases ends.symm.trans same
      exact breaks.final _ leads
  | exhausted ends leads =>
      refine iff_of_false (fun same => nomatch Except.error.inj same) ?_
      rintro ⟨other, cause, same, breaks, -⟩
      cases ends.symm.trans same
      exact breaks.final _ leads

end BreakingOff

end Runbook.Http
