import Mathlib.Data.Finset.Card
import Runbook.Proofs.Http.Sending

/-!
# Clients that are kept

A sender and its clones share the clients that they keep. In every state that they come to there is
one client for each pair of limits that a request has been sent within, and none besides; it is the
one that all these requests have been sent by, and the one that the next of them will be sent by
(`Http.clientLaw`).
-/

namespace Runbook.Http

/-! ## One client -/

namespace ClientCache

variable {cache : ClientCache} {limits : Limits}

theorem obtain_cases (cache : ClientCache) (limits : Limits) :
    (∃ client ∈ cache, client.limits = limits ∧ cache.obtain limits = (client, cache)) ∨
      limits ∉ cache.map Client.limits ∧
        cache.obtain limits = (⟨cache.length, limits⟩, cache ++ [⟨cache.length, limits⟩]) := by
  unfold obtain
  cases found : cache.find? (·.limits == limits) with
  | some client =>
      have same := List.find?_some found
      exact Or.inl ⟨client, List.mem_of_find?_eq_some found, beq_iff_eq.mp same, rfl⟩
  | none =>
      refine Or.inr ⟨fun member => ?_, rfl⟩
      obtain ⟨client, kept, same⟩ := List.mem_map.mp member
      have other := List.find?_eq_none.mp found client kept
      exact other (beq_iff_eq.mpr same)

/-- Clients are never replaced. -/
theorem prefix_obtain (cache : ClientCache) (limits : Limits) :
    cache <+: (cache.obtain limits).2 := by
  rcases obtain_cases cache limits with ⟨client, -, -, kept⟩ | ⟨-, built⟩
  · rw [kept]
  · rw [built]
    exact List.prefix_append _ _

theorem mem_obtain (cache : ClientCache) (limits : Limits) :
    (cache.obtain limits).1 ∈ (cache.obtain limits).2 := by
  rcases obtain_cases cache limits with ⟨client, member, -, kept⟩ | ⟨-, built⟩
  · rw [kept]
    exact member
  · rw [built]
    exact List.mem_append_right _ (List.mem_singleton_self _)

theorem mem_limits_obtain {other : Limits} :
    other ∈ (cache.obtain limits).2.map Client.limits ↔
      other ∈ cache.map Client.limits ∨ other = limits := by
  rcases obtain_cases cache limits with ⟨client, member, same, kept⟩ | ⟨-, built⟩
  · rw [kept]
    refine (or_iff_left_of_imp ?_).symm
    rintro rfl
    exact List.mem_map.mpr ⟨client, member, same⟩
  · rw [built, List.map_append, List.mem_append]
    exact or_congr_right List.mem_singleton

theorem nodup_obtain (distinct : (cache.map Client.limits).Nodup) :
    ((cache.obtain limits).2.map Client.limits).Nodup := by
  rcases obtain_cases cache limits with ⟨client, -, -, kept⟩ | ⟨fresh, built⟩
  · rw [kept]
    exact distinct
  · rw [built, List.map_append]
    exact distinct.append (List.nodup_singleton _) (List.disjoint_singleton.mpr fresh)

theorem numbered_obtain (numbered : cache.map Client.number = List.range cache.length) :
    (cache.obtain limits).2.map Client.number = List.range (cache.obtain limits).2.length := by
  rcases obtain_cases cache limits with ⟨client, -, -, kept⟩ | ⟨-, built⟩
  · rw [kept]
    exact numbered
  · rw [built, List.map_append, numbered, List.length_append]
    exact List.range_succ.symm

/-- Where there is one client for each pair of limits, the one that is kept is obtained. -/
theorem obtain_of_mem (distinct : (cache.map Client.limits).Nodup) {client : Client}
    (member : client ∈ cache) : cache.obtain client.limits = (client, cache) := by
  rcases obtain_cases cache client.limits with ⟨other, kept, same, found⟩ | ⟨fresh, -⟩
  · rw [found, List.inj_on_of_nodup_map distinct kept member same]
  · exact absurd (List.mem_map_of_mem member) fresh

end ClientCache

/-- A request takes its client from the ones that are kept, whatever comes of it. -/
theorem obtain_send {σ : Type} (defaults : Limits) (network : Network σ) (request : HttpRequest)
    (cache : ClientCache) (state : σ) :
    cache.obtain (effectiveLimits defaults request) =
      ((send defaults network request cache state).client,
        (send defaults network request cache state).cache) := by
  cases built : Outbound.build request with
  | error cause => rw [send_of_refused built]
  | ok outbound => rw [send_of_built built]

/-! ## Senders -/

/-- A sender and its clones. -/
structure Senders where
  /-- The limits of each of them for requests that set none. -/
  limits : List Limits
  /-- The clients that they share. -/
  cache : ClientCache

/-- A request that has been sent, and the client that it was sent by. -/
structure Use where
  request : HttpRequest
  client : Client

namespace Senders

/-- The states that a sender and its clones come to, with the requests that have been sent so far.
Each request may meet a network of its own, so that it does not matter what goes on between them. -/
inductive Reachable (defaults : Limits) : List Use → Senders → Prop
  | initial : Reachable defaults [] ⟨[defaults], []⟩
  | clone {uses : List Use} {senders : Senders} {own : Limits} :
      Reachable defaults uses senders → own ∈ senders.limits →
        Reachable defaults uses { senders with limits := senders.limits ++ [own] }
  | send {σ : Type} {uses : List Use} {senders : Senders} {own : Limits} (network : Network σ)
      (request : HttpRequest) (state : σ) :
      Reachable defaults uses senders → own ∈ senders.limits →
        Reachable defaults
          (uses ++ [⟨request, (Http.send own network request senders.cache state).client⟩])
          { senders with cache := (Http.send own network request senders.cache state).cache }

/-- The limits that requests have been sent within, whether they or the defaults gave them. -/
def limitsUsed (defaults : Limits) (uses : List Use) : List Limits :=
  uses.map fun use => effectiveLimits defaults use.request

variable {defaults own : Limits} {uses : List Use} {senders : Senders}

structure Sound (defaults : Limits) (uses : List Use) (senders : Senders) : Prop where
  limits : ∀ own ∈ senders.limits, own = defaults
  distinct : (senders.cache.map Client.limits).Nodup
  numbered : senders.cache.map Client.number = List.range senders.cache.length
  mem_iff : ∀ limits,
    limits ∈ senders.cache.map Client.limits ↔ limits ∈ limitsUsed defaults uses
  used : ∀ use ∈ uses, use.client ∈ senders.cache ∧
    use.client.limits = effectiveLimits defaults use.request

theorem Sound.initial (defaults : Limits) : Sound defaults [] ⟨[defaults], []⟩ where
  limits := fun _ member => List.mem_singleton.mp member
  distinct := List.nodup_nil
  numbered := rfl
  mem_iff := fun _ => Iff.rfl
  used := fun _ none => nomatch none

theorem Sound.clone (sound : Sound defaults uses senders) (member : own ∈ senders.limits) :
    Sound defaults uses { senders with limits := senders.limits ++ [own] } where
  limits := by
    intro other listed
    rcases List.mem_append.mp listed with earlier | new
    · exact sound.limits other earlier
    · rw [List.mem_singleton.mp new]
      exact sound.limits own member
  distinct := sound.distinct
  numbered := sound.numbered
  mem_iff := sound.mem_iff
  used := sound.used

theorem Sound.obtain (sound : Sound defaults uses senders) (request : HttpRequest) :
    let obtained := senders.cache.obtain (effectiveLimits defaults request)
    Sound defaults (uses ++ [⟨request, obtained.1⟩]) { senders with cache := obtained.2 } where
  limits := sound.limits
  distinct := ClientCache.nodup_obtain sound.distinct
  numbered := ClientCache.numbered_obtain sound.numbered
  mem_iff := by
    intro limits
    rw [ClientCache.mem_limits_obtain, sound.mem_iff, limitsUsed, limitsUsed, List.map_append,
      List.mem_append]
    exact or_congr_right List.mem_singleton.symm
  used := by
    intro use listed
    rcases List.mem_append.mp listed with earlier | new
    · obtain ⟨kept, within⟩ := sound.used use earlier
      exact ⟨(ClientCache.prefix_obtain _ _).subset kept, within⟩
    · rw [List.mem_singleton.mp new]
      exact ⟨ClientCache.mem_obtain _ _, ClientCache.limits_obtain _ _⟩

theorem Reachable.sound (reachable : Reachable defaults uses senders) :
    Sound defaults uses senders := by
  induction reachable with
  | initial => exact Sound.initial defaults
  | clone _ member ih => exact ih.clone member
  | @send _ _ senders own network request state _ member ih =>
      -- Whatever comes of the request, the clients behind it are those that one was obtained from.
      obtain rfl := ih.limits own member
      have obtained := obtain_send own network request senders.cache state
      have next := ih.obtain request
      rw [obtained] at next
      exact next

namespace Sound

theorem exists_unique (sound : Sound defaults uses senders) {limits : Limits}
    (member : limits ∈ limitsUsed defaults uses) :
    ∃! client, client ∈ senders.cache ∧ client.limits = limits := by
  obtain ⟨client, kept, within⟩ := List.mem_map.mp ((sound.mem_iff limits).mpr member)
  refine ⟨client, ⟨kept, within⟩, ?_⟩
  rintro other ⟨also, same⟩
  exact List.inj_on_of_nodup_map sound.distinct also kept (same.trans within.symm)

theorem length_cache (sound : Sound defaults uses senders) :
    senders.cache.length = (limitsUsed defaults uses).toFinset.card := by
  have same : (limitsUsed defaults uses).toFinset = (senders.cache.map Client.limits).toFinset := by
    ext limits
    rw [List.mem_toFinset, List.mem_toFinset, sound.mem_iff]
  rw [same, List.toFinset_card_of_nodup sound.distinct, List.length_map]

theorem number_eq_iff (sound : Sound defaults uses senders) {first second : Use}
    (earlier : first ∈ uses) (later : second ∈ uses) :
    first.client.number = second.client.number ↔
      effectiveLimits defaults first.request = effectiveLimits defaults second.request := by
  obtain ⟨keptFirst, withinFirst⟩ := sound.used first earlier
  obtain ⟨keptSecond, withinSecond⟩ := sound.used second later
  rw [← withinFirst, ← withinSecond]
  constructor
  · intro same
    have numbers : (senders.cache.map Client.number).Nodup := by
      rw [sound.numbered]
      exact List.nodup_range
    rw [List.inj_on_of_nodup_map numbers keptFirst keptSecond same]
  · intro same
    rw [List.inj_on_of_nodup_map sound.distinct keptFirst keptSecond same]

end Sound

end Senders

/-! ## The law -/

/-- What a request that is sent next, by any of the senders, does to the clients. -/
structure NextClient {σ : Type} (cache : ClientCache) (network : Network σ)
    (request : HttpRequest) (limits : Limits) (state : σ) (done : Sending σ) : Prop where
  /-- None is replaced. -/
  kept : cache <+: done.cache
  member : done.client ∈ done.cache
  within : done.client.limits = limits
  /-- It is the one that was kept before, if there was one; no other is built then. -/
  again : ∀ client ∈ cache, client.limits = limits → done.client = client ∧ done.cache = cache
  /-- All that is exchanged is exchanged by it. -/
  exchanged : ∀ {outbound : Outbound}, Outbound.build request = .ok outbound →
    ∃ exchanges, Course network done.client.limits request Redirect.most outbound state exchanges
      done.sent done.result done.state

/-- The clients that a sender and its clones keep after some requests. -/
structure ClientLaw (defaults : Limits) (uses : List Use) (senders : Senders) : Prop where
  /-- There is one for each pair of limits that a request was sent within, -/
  one : ∀ limits ∈ Senders.limitsUsed defaults uses,
    ∃! client, client ∈ senders.cache ∧ client.limits = limits
  /-- and none for others. -/
  only : ∀ client ∈ senders.cache, client.limits ∈ Senders.limitsUsed defaults uses
  /-- There are as many as different pairs. -/
  count : senders.cache.length = (Senders.limitsUsed defaults uses).toFinset.card
  /-- Each request was sent by the one for its limits, -/
  used : ∀ use ∈ uses, use.client ∈ senders.cache ∧
    use.client.limits = effectiveLimits defaults use.request
  /-- so that two were sent by the same just if they came to the same limits. -/
  same_iff : ∀ first ∈ uses, ∀ second ∈ uses,
    first.client.number = second.client.number ↔
      effectiveLimits defaults first.request = effectiveLimits defaults second.request
  next : ∀ own ∈ senders.limits, ∀ {σ : Type} (network : Network σ) (request : HttpRequest)
    (state : σ), NextClient senders.cache network request (effectiveLimits defaults request) state
      (send own network request senders.cache state)

theorem Senders.Sound.next {defaults own : Limits} {uses : List Use} {senders : Senders} {σ : Type}
    (sound : Sound defaults uses senders) (member : own ∈ senders.limits) (network : Network σ)
    (request : HttpRequest) (state : σ) :
    NextClient senders.cache network request (effectiveLimits defaults request) state
      (Http.send own network request senders.cache state) := by
  obtain rfl := sound.limits own member
  have obtained := obtain_send own network request senders.cache state
  have within := limits_client_send own network request senders.cache state
  refine ⟨?_, ?_, within, ?_, fun built => ?_⟩
  · have kept := ClientCache.prefix_obtain senders.cache (effectiveLimits own request)
    rw [obtained] at kept
    exact kept
  · have member := ClientCache.mem_obtain senders.cache (effectiveLimits own request)
    rw [obtained] at member
    exact member
  · intro client kept same
    have again := ClientCache.obtain_of_mem sound.distinct kept
    rw [same, obtained] at again
    exact Prod.mk.inj again
  · rw [within]
    exact @send_course _ own network request senders.cache state _ built

/-- Whatever a sender and its clones send, in whatever order, they keep one client for each pair of
limits, and send by it. -/
theorem clientLaw {defaults : Limits} {uses : List Use} {senders : Senders}
    (reachable : Senders.Reachable defaults uses senders) : ClientLaw defaults uses senders where
  one := fun _ member => reachable.sound.exists_unique member
  only := fun client kept => (reachable.sound.mem_iff client.limits).mp (List.mem_map_of_mem kept)
  count := reachable.sound.length_cache
  used := reachable.sound.used
  same_iff := fun _ earlier _ later => reachable.sound.number_eq_iff earlier later
  next := fun _ member _ network request state => reachable.sound.next member network request state

/-- A request that may set how long its response is waited for. -/
def probe (read : Option Milliseconds) : HttpRequest where
  method := .get
  url := "http://127.0.0.1/"
  headers := []
  body := .empty
  contentType := none
  statusCodes := []
  connectionTimeout := none
  readTimeout := read

/-- A sender and its clone use one client for the default limits, whether a request sets them or not,
and another one for other limits. -/
theorem clientLaw_clone :
    ∃ uses senders, Senders.Reachable ⟨1000, 2000⟩ uses senders ∧
      ClientLaw ⟨1000, 2000⟩ uses senders ∧ senders.limits.length = 2 ∧
      uses.map (·.request) = [probe none, probe (some 2000), probe (some 3000)] ∧
      uses.map (·.client.number) = [0, 0, 1] ∧
      senders.cache = [⟨0, 1000, 2000⟩, ⟨1, 1000, 3000⟩] := by
  have own : (⟨1000, 2000⟩ : Limits) ∈ [(⟨1000, 2000⟩ : Limits), ⟨1000, 2000⟩] :=
    List.mem_cons_self
  have begun : Senders.Reachable ⟨1000, 2000⟩ [] ⟨[⟨1000, 2000⟩], []⟩ := .initial
  have cloned := begun.clone (List.mem_singleton_self _)
  have unset := cloned.send .unreachable (probe none) () own
  have repeated := unset.send .unreachable (probe (some 2000)) () own
  have longer := repeated.send .unreachable (probe (some 3000)) () own
  exact ⟨_, _, longer, clientLaw longer, rfl, rfl, by decide +kernel, by decide +kernel⟩

end Runbook.Http
