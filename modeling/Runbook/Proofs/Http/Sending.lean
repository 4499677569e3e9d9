import Runbook.Proofs.Http.Course

/-!
# Sending requests

A request that can be built is sent as a course of exchanges. It goes out just once, and is judged
by the answer to it, exactly if its address belongs to the web and the answer is no redirect that
the client can follow (`sendingLaw`).
-/

namespace Runbook.Http

/-! ## Redirects -/

namespace Redirect

/-- A response asks for another request: its status is that of a redirect, and it names an
address. -/
structure Asks (request : Outbound) (response : Response) : Prop where
  status : response.status ∈ ([301, 302, 303, 307, 308] : List UInt16)
  location : ∃ target, target? request response = some target

theorem repeated_eq_none_iff {status : UInt16} {request : Outbound} :
    repeated status request = none ↔ status ∉ ([301, 302, 303, 307, 308] : List UInt16) := by
  unfold repeated
  simp only [List.mem_cons, List.not_mem_nil, or_false]
  split_ifs with moved other kept
  · exact iff_of_false id fun absent => absent (by tauto)
  · exact iff_of_false id fun absent => absent (by tauto)
  · exact iff_of_false id fun absent => absent (by tauto)
  · exact iff_of_true rfl (by tauto)

theorem next_eq_none_iff {request : Outbound} {response : Response} :
    next request response = none ↔ ¬ Asks request response := by
  unfold next
  cases again : repeated response.status request with
  | none =>
      refine iff_of_true rfl fun asks => ?_
      exact repeated_eq_none_iff.mp again asks.status
  | some repeated =>
      have status : response.status ∈ ([301, 302, 303, 307, 308] : List UInt16) := by
        by_contra other
        rw [repeated_eq_none_iff.mpr other] at again
        cases again
      cases target : target? request response with
      | none =>
          refine iff_of_true rfl fun asks => ?_
          obtain ⟨found, named⟩ := asks.location
          cases target.symm.trans named
      | some found =>
          exact iff_of_false (Option.some_ne_none _) fun none => none ⟨status, found, target⟩

end Redirect

theorem Exchange.leadsTo_iff {exchange : Exchange} :
    (∃ again, exchange.LeadsTo again) ↔
      ∃ response, exchange.answer = .ok response ∧
        Redirect.Asks exchange.request response := by
  constructor
  · rintro ⟨again, response, answered, leads⟩
    refine ⟨response, answered, ?_⟩
    by_contra plain
    cases leads.symm.trans (Redirect.next_eq_none_iff.mpr plain)
  · rintro ⟨response, answered, asks⟩
    cases leads : Redirect.next exchange.request response with
    | none => exact absurd asks (Redirect.next_eq_none_iff.mp leads)
    | some again => exact ⟨again, response, answered, leads⟩

/-! ## Sending -/

section Send

variable {σ : Type} {defaults limits : Limits} {network : Network σ} {request : HttpRequest}
  {cache : ClientCache} {state : σ} {outbound : Outbound}

/-- The client for a pair of limits has these limits. -/
theorem ClientCache.limits_obtain (cache : ClientCache) (limits : Limits) :
    (cache.obtain limits).1.limits = limits := by
  unfold obtain
  split
  · rename_i client found
    have same := List.find?_some found
    exact beq_iff_eq.mp same
  · rfl

theorem send_of_refused {cause : BuildError} (refused : Outbound.build request = .error cause) :
    send defaults network request cache state =
      ⟨(cache.obtain (effectiveLimits defaults request)).1, [], .error (.request cause.message),
        (cache.obtain (effectiveLimits defaults request)).2, state⟩ := by
  rw [send, refused]

theorem send_of_built (built : Outbound.build request = .ok outbound) :
    let limits := effectiveLimits defaults request
    let done := transfer network limits Redirect.most outbound state
    send defaults network request cache state =
      ⟨(cache.obtain limits).1, done.sent, finish limits request done.answer,
        (cache.obtain limits).2, done.state⟩ := by
  rw [send, built]
  simp only [ClientCache.limits_obtain]
  rfl

/-- A request is sent by a client with its limits, even if it cannot be built. -/
theorem limits_client_send (defaults : Limits) (network : Network σ) (request : HttpRequest)
    (cache : ClientCache) (state : σ) :
    (send defaults network request cache state).client.limits =
      effectiveLimits defaults request := by
  cases built : Outbound.build request with
  | error cause =>
      rw [send_of_refused built]
      exact ClientCache.limits_obtain ..
  | ok outbound =>
      rw [send_of_built built]
      exact ClientCache.limits_obtain ..

/-- A request that can be built is sent as a course of exchanges. -/
theorem send_course (built : Outbound.build request = .ok outbound) :
    let done := send defaults network request cache state
    ∃ exchanges, Course network (effectiveLimits defaults request) request Redirect.most outbound
      state exchanges done.sent done.result done.state := by
  rw [send_of_built built]
  exact transfer_course network (effectiveLimits defaults request) request Redirect.most outbound
    state

/-! ### One request -/

/-- One request goes out, and the answer to it decides. -/
def SendsOnce (defaults : Limits) (network : Network σ) (request : HttpRequest)
    (cache : ClientCache) (state : σ) : Prop :=
  let limits := effectiveLimits defaults request
  let done := send defaults network request cache state
  ∃ exchange : Exchange, done.sent = [exchange.request] ∧
    network.exchange limits exchange.request state = (exchange.answer, done.state) ∧
    Decides limits request exchange done.result

theorem head?_quoted {front : String} (text back : String) (some : front.toList ≠ []) :
    (front ++ text ++ back).toList.head? = front.toList.head? := by
  rw [String.toList_append, String.toList_append, List.append_assoc,
    List.head?_append_of_ne_nil _ some]

/-- Nothing that a server does is reported like an address that is none of the web. -/
theorem Decides.ne_notWeb {exchange : Exchange} {result : Except ExecutionError Output}
    (decides : Decides limits request exchange result) (url : Url) :
    result ≠ .error (.request (TransferError.notWeb url).message) := by
  have own : (TransferError.notWeb url).message.toList.head? = some 'b' :=
    head?_quoted url.text ")" (by simp)
  -- A request error that a disruption is reported as has a wording of its own.
  have failure {message : String} {cause : Disruption}
      (other : message.toList.head? = some 'e') :
      failureOf limits message cause ≠ .request (TransferError.notWeb url).message := by
    unfold failureOf
    intro same
    split at same
    · cases same
    · cases same
    · cases same
    · rw [ExecutionError.request.inj same, own] at other
      exact absurd other (by decide)
  cases decides with
  | disrupted =>
      intro same
      exact failure (head?_quoted _ ")" (by simp)) (Except.error.inj same)
  | broken =>
      intro same
      exact failure (by simp) (Except.error.inj same)
  | accepted => exact fun same => nomatch same
  | refused => exact fun same => nomatch Except.error.inj same

/-- A course ends with its first exchange if the answer there asks for nothing. -/
theorem Course.once {exchanges : List Exchange} {sent : List Outbound}
    {result : Except ExecutionError Output} {redirects : Nat} {after : σ}
    (course : Course network limits request redirects outbound state exchanges sent result after)
    (web : outbound.url.isWeb = true)
    (plain : ∀ response between,
      network.exchange limits outbound state = (.ok response, between) →
      ¬ Redirect.Asks outbound response) :
    ∃ answer, sent = [outbound] ∧ network.exchange limits outbound state = (answer, after) ∧
      Decides limits request ⟨outbound, answer⟩ result := by
  cases exchanges with
  | nil => cases course.ended.foreign.symm.trans web
  | cons exchange rest =>
      obtain ⟨first, answer⟩ := exchange
      have same : first = outbound := course.first _ rfl
      subst first
      obtain ⟨between, exchanged, made⟩ := course.made.head
      have final : ∀ again, ¬ Exchange.LeadsTo ⟨outbound, answer⟩ again := by
        intro again leads
        obtain ⟨response, answered, asks⟩ := Exchange.leadsTo_iff.mp ⟨again, leads⟩
        cases answered
        exact plain response between exchanged asks
      cases rest with
      | nil =>
          cases made
          exact ⟨answer, course.sent, exchanged, course.ended.decides rfl final⟩
      | cons next rest => exact absurd (List.isChain_cons_cons.mp course.chained).1 (final _)

/-- One request goes out just if its address belongs to the web and the answer is no redirect. -/
theorem sendsOnce_iff :
    SendsOnce defaults network request cache state ↔
      ∃ outbound, Outbound.build request = .ok outbound ∧ outbound.url.isWeb = true ∧
        ∀ response after,
          network.exchange (effectiveLimits defaults request) outbound state =
            (.ok response, after) →
          ¬ Redirect.Asks outbound response := by
  constructor
  · rintro ⟨exchange, sent, -, decides⟩
    cases built : Outbound.build request with
    | error cause =>
        rw [send_of_refused built] at sent
        cases sent
    | ok outbound =>
        refine ⟨outbound, rfl, ?_⟩
        obtain ⟨exchanges, course⟩ := @send_course _ defaults network _ cache state _ built
        obtain ⟨only, rfl, same⟩ := List.map_eq_singleton_iff.mp (course.sent.symm.trans sent)
        have first : only.request = outbound := course.first only rfl
        have web := course.web only (List.mem_singleton_self only)
        have room : [only].length ≤ Redirect.most := Nat.le_add_left 1 9
        have final := course.ended.final rfl room decides.ne_notWeb
        rw [first] at web
        refine ⟨web, fun response after answered asks => ?_⟩
        obtain ⟨between, own, -⟩ := course.made.head
        rw [first, answered] at own
        obtain ⟨again, leads⟩ := Exchange.leadsTo_iff.mpr
          ⟨response, (Prod.mk.inj own).1.symm, first ▸ asks⟩
        exact final again leads
  · rintro ⟨outbound, built, web, plain⟩
    obtain ⟨exchanges, course⟩ := @send_course _ defaults network _ cache state _ built
    obtain ⟨answer, sent, exchanged, decides⟩ := course.once web plain
    exact ⟨⟨outbound, answer⟩, sent, exchanged, decides⟩

theorem Decides.succeeds {response : Response} {bytes : List UInt8}
    {result : Except ExecutionError Output}
    (decides : Decides limits request ⟨outbound, .ok response⟩ result)
    (body : response.body = .ok bytes) (accepts : request.accepts response.status = true) :
    ∃ output, result = .ok output ∧ output.statusCode = some response.status := by
  cases decides with
  | broken broken => cases broken.symm.trans body
  | accepted => exact ⟨_, rfl, rfl⟩
  | refused _ refuses => cases refuses.symm.trans accepts

theorem accepts_of_mem_statusCodes {status : UInt16} (listed : status ∈ request.statusCodes) :
    request.accepts status = true := by
  have some : request.statusCodes.isEmpty = false :=
    List.isEmpty_eq_false_iff_exists_mem.mpr ⟨status, listed⟩
  rw [HttpRequest.accepts, acceptsStatus, some, if_neg Bool.false_ne_true]
  exact List.contains_iff_mem.mpr listed

/-- What sending a request does. -/
structure SendingLaw (defaults : Limits) (network : Network σ) (request : HttpRequest)
    (cache : ClientCache) (state : σ) : Prop where
  /-- Nothing goes out for a request that cannot be built. -/
  unbuilt : ∀ cause, Outbound.build request = .error cause →
    let done := send defaults network request cache state
    done.sent = [] ∧ done.result = .error (.request cause.message) ∧ done.state = state
  course : ∀ outbound, Outbound.build request = .ok outbound →
    let done := send defaults network request cache state
    ∃ exchanges, Course network (effectiveLimits defaults request) request Redirect.most outbound
      state exchanges done.sent done.result done.state
  once_iff : SendsOnce defaults network request cache state ↔
    ∃ outbound, Outbound.build request = .ok outbound ∧ outbound.url.isWeb = true ∧
      ∀ response after,
        network.exchange (effectiveLimits defaults request) outbound state =
          (.ok response, after) →
        ¬ Redirect.Asks outbound response
  /-- A status that the request lists, of a complete answer that is no redirect, is a success. -/
  listed : ∀ outbound response bytes after, Outbound.build request = .ok outbound →
    outbound.url.isWeb = true →
    network.exchange (effectiveLimits defaults request) outbound state = (.ok response, after) →
    response.body = .ok bytes → ¬ Redirect.Asks outbound response →
    response.status ∈ request.statusCodes →
    ∃ output, (send defaults network request cache state).result = .ok output ∧
      output.statusCode = some response.status

/-- **Sending a request.** A request goes out in a course of at most eleven exchanges, each of which
leads to the next one, and the last one decides. It goes out just once, and is judged by the answer
to it, exactly if its address belongs to the web and the answer does not ask for another request. -/
theorem sendingLaw (defaults : Limits) (network : Network σ) (request : HttpRequest)
    (cache : ClientCache) (state : σ) : SendingLaw defaults network request cache state where
  unbuilt := by
    intro cause refused
    rw [send_of_refused refused]
    exact ⟨rfl, rfl, rfl⟩
  course := fun _ built => send_course built
  once_iff := sendsOnce_iff
  listed := by
    intro outbound response bytes after built web exchanged body plain listed
    obtain ⟨exchanges, course⟩ := @send_course _ defaults network _ cache state _ built
    have plain' : ∀ other between,
        network.exchange (effectiveLimits defaults request) outbound state = (.ok other, between) →
        ¬ Redirect.Asks outbound other := by
      intro other between answered
      cases exchanged.symm.trans answered
      exact plain
    obtain ⟨answer, -, own, decides⟩ := course.once web plain'
    cases exchanged.symm.trans own
    exact decides.succeeds body (accepts_of_mem_statusCodes listed)

end Send

/-! ### A detour -/

/-- A service that has moved: it first names another address, and answers there. -/
def detour : Network Nat where
  exchange _ _ visited :=
    if visited = 0 then (.ok ⟨301, [("location", Text.Utf8.encode "/b")], .ok []⟩, 1)
    else (.ok ⟨200, [], .ok (Text.Utf8.encode "moved")⟩, visited + 1)

/-- A request that lists the status of a redirect. -/
def detoured : HttpRequest where
  method := .post
  url := "http://127.0.0.1/a"
  headers := []
  body := .raw "on"
  contentType := none
  statusCodes := [301]
  connectionTimeout := none
  readTimeout := none

/-- The status that the request lists is the one of the answer to it, but a second request goes out,
and the status of the answer to that one is refused. -/
theorem detoured_not_sendsOnce :
    ¬ SendsOnce ⟨5000, 5000⟩ detour detoured [] 0 ∧
      (send ⟨5000, 5000⟩ detour detoured [] 0).sent.map (·.method) = [.post, .get] ∧
      (send ⟨5000, 5000⟩ detour detoured [] 0).result =
        .error (.unexpectedStatus 200 "moved") := by
  have twice : (send ⟨5000, 5000⟩ detour detoured [] 0).sent.map (·.method) = [.post, .get] := by
    decide +kernel
  refine ⟨?_, twice, by decide +kernel⟩
  rintro ⟨exchange, once, -⟩
  rw [once] at twice
  cases congrArg List.length twice

end Runbook.Http
