import PyJwt.Correctness.KeyRotation
import PyJwt.Implementation.SigningKeyCache

/-! Whole runs of a client with the per-key cache. To the endpoint and the JWK Set cache they
are runs of a client without it, from which some lookups are missing: those of the keys that
were answered with recently.
-/

namespace PyJwt

open Foundations
open Python

variable {env : Env}

-----------------------------------------------------------------------------------------
-- Calls
-----------------------------------------------------------------------------------------

/-- A call of a client, with what the outside world shows it. -/
inductive KeyCachingCall
  | fetchData (response : Response) (now : Rat)
  | getJwkSet (refresh : Bool) (turn : Turn)
  | getSigningKeys (refresh : Bool) (turn : Turn)
  | getSigningKey (kid : PyStr) (first second : Turn)
  | getSigningKeyFromJwt (decoder : PyJWT) (token : TextArg) (now : Rat) (first second : Turn)

namespace KeyCachingCall

/-- The call, answering with the keys of the set, the signing keys, the one key, or no key. -/
def run (env : Env) : KeyCachingCall → KeyCachingRun (List PyJWK)
  | fetchData response now =>
      (fun _ => []) <$> KeyCachingClient.direct (PyJWKClient.fetchData response now)
  | getJwkSet refresh turn =>
      PyJWKSet.keys <$> KeyCachingClient.direct (PyJWKClient.getJwkSet env refresh turn)
  | getSigningKeys refresh turn =>
      KeyCachingClient.direct (PyJWKClient.getSigningKeys env refresh turn)
  | getSigningKey kid first second =>
      List.singleton <$> KeyCachingClient.getSigningKey env kid first second
  | getSigningKeyFromJwt decoder token now first second =>
      List.singleton
        <$> KeyCachingClient.getSigningKeyFromJwt env decoder token now first second

/-- The call of a client without the per-key cache. -/
def plain (env : Env) : KeyCachingCall → ClientRun (List PyJWK)
  | fetchData response now => (fun _ => []) <$> PyJWKClient.fetchData response now
  | getJwkSet refresh turn => PyJWKSet.keys <$> PyJWKClient.getJwkSet env refresh turn
  | getSigningKeys refresh turn => PyJWKClient.getSigningKeys env refresh turn
  | getSigningKey kid first second =>
      List.singleton <$> PyJWKClient.getSigningKey env kid first second
  | getSigningKeyFromJwt decoder token now first second =>
      List.singleton <$> PyJWKClient.getSigningKeyFromJwt env decoder token now first second

/-- What the header of a token says before anything is verified. -/
def unverified (env : Env) (decoder : PyJWT) (token : TextArg) (now : Rat)
    : Outcome PyJWT.Decoded :=
  (decoder.decodeComplete env token (.raw (.str "")) none
    (some PyJWKClient.unverifiedOptions) none PyJWKClient.defaultExpected now).result

/-- The `kid` that the call looks up a key by. -/
def kid? (env : Env) : KeyCachingCall → Option PyStr
  | getSigningKey kid _ _ => some kid
  | getSigningKeyFromJwt decoder token now _ _ =>
      match unverified env decoder token now with
      | .ok decoded => (getOrNull decoded.header "kid").asStr?
      | .error _ => none
  | fetchData _ _ | getJwkSet _ _ | getSigningKeys _ _ => none

/-- The answers that the call adds to those of the run. -/
def answered (env : Env) (call : KeyCachingCall) (result : Outcome (List PyJWK))
    : List (PyStr × PyJWK) :=
  match call.kid? env, result with
  | some kid, .ok keys => keys.map (fun key => (kid, key))
  | some _, .error _ | none, _ => []

/-- What a call adds is what it returns for the `kid` it looks up. -/
theorem mem_answered {call : KeyCachingCall} {result : Outcome (List PyJWK)} {kid : PyStr}
    {key : PyJWK}
    : (kid, key) ∈ call.answered env result
      ↔ call.kid? env = some kid ∧ ∃ keys, result = .ok keys ∧ key ∈ keys := by
  unfold answered
  cases named : call.kid? env with
  | none => simp
  | some other =>
      cases result with
      | error error => simp
      | ok keys => simp [and_comm]

end KeyCachingCall

namespace KeyCachingClient

/-- The answer that the per-key cache has to a lookup. -/
def cachedKey (self : KeyCachingClient) (kid : PyStr) : Option PyJWK :=
  self.keyCache.bind (fun cache => cache.get? kid)

/-- The client after the answers have been used. -/
def remember (self : KeyCachingClient) (answers : List (PyStr × PyJWK)) : KeyCachingClient :=
  {
    self with
    keyCache := self.keyCache.map (fun cache => cache.useAll answers)
  }

@[simp] theorem remember_nil (self : KeyCachingClient) : self.remember [] = self := by
  have unchanged (cache : Lru PyStr PyJWK) : cache.useAll [] = cache := rfl
  cases self with
  | mk client keyCache => simp [remember, unchanged]

theorem direct_run {α : Type} (run : ClientRun α) (self : KeyCachingClient)
    : direct run self
      = ⟨
          ⟨(run self.toPyJWKClient).state, self.keyCache⟩,
          (run self.toPyJWKClient).log,
          (run self.toPyJWKClient).result
        ⟩ :=
  rfl

/-- An answer of the per-key cache is returned, and everything else stays as it is. -/
theorem getSigningKey_of_hit {self : KeyCachingClient} {kid : PyStr} {key : PyJWK}
    (h : self.cachedKey kid = some key) (first second : Turn)
    : getSigningKey env kid first second self
      = ⟨self.remember [(kid, key)], [], .ok key⟩ := by
  obtain ⟨cache, present, found⟩ := Option.bind_eq_some_iff.mp h
  simp only [getSigningKey, present, memoized_of_hit found, remember, Option.map_some]
  rfl

/-- Without an answer of the per-key cache the lookup is made, and its answer kept. -/
theorem getSigningKey_of_miss {self : KeyCachingClient} {kid : PyStr}
    (h : self.cachedKey kid = none) (first second : Turn)
    : getSigningKey env kid first second self
      = let step := PyJWKClient.getSigningKey env kid first second self.toPyJWKClient
        ⟨
          remember ⟨step.state, self.keyCache⟩ (Foundations.answered kid step.result),
          step.log,
          step.result
        ⟩ := by
  unfold getSigningKey remember
  cases present : self.keyCache with
  | none => simp only [direct_run, present, Option.map_none]
  | some cache =>
      have missing : cache.get? kid = none := by
        simpa [cachedKey, present] using h
      simp only [memoized_of_miss missing, Option.map_some]

end KeyCachingClient

namespace KeyCachingCall

/-- A lookup by a token is a lookup by the `kid` that its header has. -/
theorem fromJwt_of_kid {decoder : PyJWT} {token : TextArg} {now : Rat} {first second : Turn}
    {kid : PyStr} (h : (getSigningKeyFromJwt decoder token now first second).kid? env = some kid)
    : (getSigningKeyFromJwt decoder token now first second).run env
      = (getSigningKey kid first second).run env
      ∧ (getSigningKeyFromJwt decoder token now first second).plain env
        = (getSigningKey kid first second).plain env := by
  cases read : unverified env decoder token now with
  | ok decoded =>
      have named : (getOrNull decoded.header "kid").asStr? = some kid := by
        simpa only [kid?, read] using h
      unfold unverified at read
      simp only [run, plain, KeyCachingClient.getSigningKeyFromJwt,
        PyJWKClient.getSigningKeyFromJwt, read, Stateful.liftM_eq_ofExcept,
        Stateful.ofExcept_ok_bind, named, and_self]
  | error error => simp [kid?, read] at h

/-- What the per-key cache has no part in is mapped like anything else. -/
theorem map_direct {α β : Type} (f : α → β) (run : ClientRun α)
    : f <$> KeyCachingClient.direct run = KeyCachingClient.direct (f <$> run) := by
  funext self
  simp only [Stateful.map_run, KeyCachingClient.direct_run]

/-- A call that looks no key up is made directly. -/
theorem run_of_no_kid {call : KeyCachingCall} (h : call.kid? env = none)
    : call.run env = KeyCachingClient.direct (call.plain env) := by
  cases call with
  | fetchData response now => exact map_direct _ _
  | getJwkSet refresh turn => exact map_direct _ _
  | getSigningKeys refresh turn => rfl
  | getSigningKey kid first second => cases h
  | getSigningKeyFromJwt decoder token now first second =>
      cases read : unverified env decoder token now with
      | ok decoded =>
          have unnamed : (getOrNull decoded.header "kid").asStr? = none := by
            simpa only [kid?, read] using h
          unfold unverified at read
          simp only [run, plain, KeyCachingClient.getSigningKeyFromJwt,
            PyJWKClient.getSigningKeyFromJwt, read, Stateful.liftM_eq_ofExcept,
            Stateful.ofExcept_ok_bind, unnamed]
          exact map_direct _ _
      | error error =>
          unfold unverified at read
          simp only [run, plain, KeyCachingClient.getSigningKeyFromJwt,
            PyJWKClient.getSigningKeyFromJwt, read, Stateful.liftM_eq_ofExcept,
            Stateful.ofExcept_error_bind]
          rfl

/-- A call that looks a key up is a lookup by the `kid`. -/
theorem eq_of_kid {call : KeyCachingCall} {kid : PyStr} (h : call.kid? env = some kid)
    : ∃ first second,
        call.run env = (getSigningKey kid first second).run env
        ∧ call.plain env = (getSigningKey kid first second).plain env := by
  cases call with
  | getSigningKey other first second =>
      cases h
      exact ⟨first, second, rfl, rfl⟩
  | getSigningKeyFromJwt decoder token now first second =>
      exact ⟨first, second, fromJwt_of_kid h⟩
  | fetchData response now => cases h
  | getJwkSet refresh turn => cases h
  | getSigningKeys refresh turn => cases h

section Lookup

variable {call : KeyCachingCall} {client : KeyCachingClient}

/-- A lookup that the per-key cache answers makes no request, and reads nothing else. -/
theorem run_of_hit {kid : PyStr} {key : PyJWK} (named : call.kid? env = some kid)
    (h : client.cachedKey kid = some key)
    : call.run env client = ⟨client.remember [(kid, key)], [], .ok [key]⟩ := by
  obtain ⟨first, second, same, _⟩ := eq_of_kid named
  rw [same, run, Stateful.map_run, KeyCachingClient.getSigningKey_of_hit h]
  rfl

/-- Any other call does what it does without the per-key cache, which keeps the answer. -/
theorem run_of_miss (h : ∀ kid, call.kid? env = some kid → client.cachedKey kid = none)
    : call.run env client
      = let step := call.plain env client.toPyJWKClient
        ⟨
          KeyCachingClient.remember ⟨step.state, client.keyCache⟩
            (call.answered env step.result),
          step.log,
          step.result
        ⟩ := by
  cases named : call.kid? env with
  | none =>
      have silent (result : Outcome (List PyJWK)) : call.answered env result = [] := by
        simp only [answered, named]
      rw [run_of_no_kid named, KeyCachingClient.direct_run]
      simp only [silent, KeyCachingClient.remember_nil]
  | some kid =>
      obtain ⟨first, second, same, samePlain⟩ := eq_of_kid named
      have uses (result : Outcome PyJWK)
          : call.answered env (result.map List.singleton) = Foundations.answered kid result := by
        cases result <;> simp [answered, named, Foundations.answered, Except.map]
        rfl
      rw [same, samePlain, run, plain, Stateful.map_run, Stateful.map_run,
        KeyCachingClient.getSigningKey_of_miss (h kid named)]
      simp only [uses]

/-- A call is answered by the per-key cache, or does what it does without one. -/
theorem run_cases (env : Env) (call : KeyCachingCall) (client : KeyCachingClient)
    : (∃ kid key,
        call.kid? env = some kid
        ∧ client.cachedKey kid = some key
        ∧ call.run env client = ⟨client.remember [(kid, key)], [], .ok [key]⟩)
      ∨ call.run env client
        = let step := call.plain env client.toPyJWKClient
          ⟨
            KeyCachingClient.remember ⟨step.state, client.keyCache⟩
              (call.answered env step.result),
            step.log,
            step.result
          ⟩ := by
  by_cases hit : ∃ kid key, call.kid? env = some kid ∧ client.cachedKey kid = some key
  · obtain ⟨kid, key, named, found⟩ := hit
    exact Or.inl ⟨kid, key, named, found, run_of_hit named found⟩
  · refine Or.inr (run_of_miss ?_)
    intro kid named
    rw [Option.eq_none_iff_forall_ne_some]
    intro key found
    exact hit ⟨kid, key, named, found⟩

end Lookup

end KeyCachingCall

-----------------------------------------------------------------------------------------
-- Runs
-----------------------------------------------------------------------------------------

/-- The arguments of the constructor that decide what is cached. -/
structure CacheOptions where
  cacheKeys : Bool
  maxCachedKeys : Int
  cacheJwkSet : Bool
  lifespan : Rat

/-- The most keys that the per-key cache has room for. -/
def CacheOptions.room (options : CacheOptions) : Nat :=
  if options.cacheKeys then options.maxCachedKeys.toNat else 0

namespace KeyCachingCall

/-- The clock after the call. -/
def finishedAt : KeyCachingCall → Rat
  | fetchData _ now => now
  | getJwkSet _ turn | getSigningKeys _ turn => turn.writtenAt
  | getSigningKey _ _ second | getSigningKeyFromJwt _ _ _ _ second => second.writtenAt

/-- The clock does not go back from `clock` on, through the whole call. -/
def Follows (clock : Rat) : KeyCachingCall → Prop
  | fetchData _ now => clock ≤ now
  | getJwkSet _ turn | getSigningKeys _ turn => turn.Follows clock
  | getSigningKey _ first second => first.Follows clock ∧ second.Follows first.writtenAt
  | getSigningKeyFromJwt _ _ now first second =>
      clock ≤ now ∧ first.Follows now ∧ second.Follows first.writtenAt

theorem le_finishedAt (call : KeyCachingCall) {clock : Rat} (h : call.Follows clock)
    : clock ≤ call.finishedAt := by
  have through {turn : Turn} {start : Rat} (follows : turn.Follows start)
      : start ≤ turn.writtenAt :=
    follows.1.trans follows.2
  cases call with
  | fetchData response now => exact h
  | getJwkSet refresh turn => exact through h
  | getSigningKeys refresh turn => exact through h
  | getSigningKey kid first second => exact (through h.1).trans (through h.2)
  | getSigningKeyFromJwt decoder token now first second =>
      exact h.1.trans ((through h.2.1).trans (through h.2.2))

end KeyCachingCall

/-- The clients that a constructor call and later calls lead to, with the clock afterwards, the
history, and the answers to the lookups.
-/
inductive KeyCachingClient.Run (env : Env) (options : CacheOptions)
    : Rat → KeyCachingClient → List ClientEvent → List (PyStr × PyJWK) → Prop
  | init {client : KeyCachingClient} (clock : Rat)
      (constructed : KeyCachingClient.init options.cacheKeys options.maxCachedKeys
        options.cacheJwkSet options.lifespan = .ok client)
    : Run env options clock client [] []
  | step {clock : Rat} {client : KeyCachingClient} {history : List ClientEvent}
      {answers : List (PyStr × PyJWK)} (h : Run env options clock client history answers)
      (call : KeyCachingCall) (ordered : call.Follows clock)
    : Run env options call.finishedAt (call.run env client).state
        (history ++ (call.run env client).log)
        (answers ++ call.answered env (call.run env client).result)

-----------------------------------------------------------------------------------------
-- The per-key cache as a function of the answers
-----------------------------------------------------------------------------------------

/-- The per-key cache holds as many of the recent answers as it has room for. -/
structure Remembers (options : CacheOptions) (client : KeyCachingClient)
    (answers : List (PyStr × PyJWK)) : Prop where
  enabled : client.keyCache.isSome = options.cacheKeys
  content : ∀ cache,
    client.keyCache = some cache
    → cache.capacity = options.room ∧ cache.Recalls answers

namespace KeyCachingClient

theorem remembers_init {options : CacheOptions} {client : KeyCachingClient}
    (h : init options.cacheKeys options.maxCachedKeys options.cacheJwkSet options.lifespan
      = .ok client)
    : Remembers options client [] := by
  obtain ⟨inner, _, made⟩ := outcome_bind_eq_ok.mp h
  cases made
  cases enabled : options.cacheKeys with
  | false =>
      refine ⟨enabled.symm, ?_⟩
      intro cache present
      cases present
  | true =>
      refine ⟨enabled.symm, ?_⟩
      intro cache present
      cases present
      exact ⟨by simp [CacheOptions.room, enabled, Lru.empty], Lru.recalls_empty _⟩

/-- Every call keeps the client remembering the answers of the run. -/
theorem remembers_remember {options : CacheOptions} {client : KeyCachingClient}
    {answers : List (PyStr × PyJWK)} (h : Remembers options client answers)
    (inner : PyJWKClient) (more : List (PyStr × PyJWK))
    : Remembers options (remember ⟨inner, client.keyCache⟩ more) (answers ++ more) := by
  refine ⟨?_, ?_⟩
  · simpa [remember] using h.enabled
  · intro cache present
    obtain ⟨earlier, was, rfl⟩ := Option.map_eq_some_iff.mp present
    obtain ⟨capacity, recalls⟩ := h.content earlier was
    obtain ⟨recallsMore, sameCapacity⟩ := recalls.useAll more
    exact ⟨sameCapacity.trans capacity, recallsMore⟩

theorem remembers_run {options : CacheOptions} {client : KeyCachingClient}
    {answers : List (PyStr × PyJWK)} (h : Remembers options client answers)
    (call : KeyCachingCall)
    : Remembers options (call.run env client).state
        (answers ++ call.answered env (call.run env client).result) := by
  rcases KeyCachingCall.run_cases env call client with ⟨kid, key, named, _, ran⟩ | ran
  · have answered : call.answered env (.ok [key]) = [(kid, key)] := by
      simp [KeyCachingCall.answered, named]
    rw [ran, answered]
    exact remembers_remember h client.toPyJWKClient [(kid, key)]
  · rw [ran]
    exact remembers_remember h _ _

theorem Run.remembers {options : CacheOptions} {clock : Rat} {client : KeyCachingClient}
    {history : List ClientEvent} {answers : List (PyStr × PyJWK)}
    (h : Run env options clock client history answers)
    : Remembers options client answers := by
  induction h with
  | init clock constructed => exact remembers_init constructed
  | step _ call _ ih => exact remembers_run ih call

/-- The per-key cache answers precisely where the key was answered with and fewer others than
it has room for have been since.
-/
theorem cachedKey_eq_some_iff {options : CacheOptions} {client : KeyCachingClient}
    {answers : List (PyStr × PyJWK)} (h : Remembers options client answers) {kid : PyStr}
    {key : PyJWK}
    : client.cachedKey kid = some key ↔ Lru.Keeps options.room answers kid key := by
  cases present : client.keyCache with
  | none =>
      have disabled : options.room = 0 := by
        simp [CacheOptions.room, ← h.enabled, present]
      simp [cachedKey, present, Lru.Keeps, disabled]
  | some cache =>
      obtain ⟨capacity, recalls⟩ := h.content cache present
      rw [← capacity, ← recalls.get?_eq_some_iff]
      simp [cachedKey, present]

/-- Room for one key, and a JWK Set cache with the default lifespan. -/
def roomForOne : CacheOptions := ⟨true, 1, true, 300⟩

/-- A lookup while the endpoint serves the key. -/
def lookupServed : KeyCachingCall :=
  .getSigningKey "b" (PyJWKClient.serving "b" 0) (PyJWKClient.serving "b" 0)

/-- A client that has made no call. -/
def unused : KeyCachingClient := ⟨⟨some (.init 300)⟩, some (.empty 1)⟩

theorem init_unused : KeyCachingClient.init true 1 true 300 = .ok unused := by
  unfold KeyCachingClient.init
  rw [PyJWKClient.init_eq_ok (by norm_num)]
  rfl

theorem run_init_unused : Run bareEnv roomForOne 0 unused [] [] :=
  .init 0 init_unused

theorem lookupServed_run
    : ∃ key, (lookupServed.run bareEnv unused).result = .ok [key] := by
  have none : PyJWKClient.cachedJwkSet false 0 unused.toPyJWKClient = .null := rfl
  obtain ⟨key, returned⟩ := @PyJWKClient.getSigningKey_of_uncached bareEnv "b"
    (PyJWKClient.serving "b" 0) (PyJWKClient.serving "b" 0) unused.toPyJWKClient
    (PyJWKClient.serves_serving 0) (by decide) none
  refine ⟨key, ?_⟩
  rw [KeyCachingCall.run_of_miss (fun _ _ => rfl), lookupServed, KeyCachingCall.plain,
    Stateful.map_run, returned]
  rfl

/-- A run of that one lookup. -/
theorem exists_answeredRun
    : ∃ client history key, Run bareEnv roomForOne 0 client history [("b", key)] := by
  obtain ⟨key, returned⟩ := lookupServed_run
  have run := run_init_unused.step lookupServed
    ⟨⟨le_refl 0, le_refl 0⟩, ⟨le_refl 0, le_refl 0⟩⟩
  rw [returned] at run
  exact ⟨_, _, key, run⟩

/-- A run without the per-key cache leads to the client, with the history, by the time `clock`. -/
def Reaches (env : Env) (options : CacheOptions) (clock : Rat) (client : PyJWKClient)
    (history : List ClientEvent)
    : Prop :=
  ∃ earlier,
    earlier ≤ clock
    ∧ PyJWKClient.Run env options.cacheJwkSet options.lifespan earlier client history

section Reaches

variable {options : CacheOptions} {clock : Rat} {client : PyJWKClient}
  {history : List ClientEvent}

theorem Reaches.later (h : Reaches env options clock client history) {later : Rat}
    (advances : clock ≤ later)
    : Reaches env options later client history := by
  obtain ⟨earlier, notAfter, run⟩ := h
  exact ⟨earlier, notAfter.trans advances, run⟩

theorem Reaches.listing (h : Reaches env options clock client history) (refresh : Bool)
    {turn : Turn} (ordered : turn.Follows clock)
    : Reaches env options turn.writtenAt
        (PyJWKClient.getSigningKeys env refresh turn client).state
        (history ++ (PyJWKClient.getSigningKeys env refresh turn client).log) := by
  obtain ⟨earlier, notAfter, run⟩ := h
  exact ⟨_, le_refl _, run.step (.getSigningKeys refresh turn)
    ⟨notAfter.trans ordered.1, ordered.2⟩⟩

theorem Reaches.lookup (h : Reaches env options clock client history) (kid : PyStr)
    {first second : Turn} (orderedFirst : first.Follows clock)
    (orderedSecond : second.Follows first.writtenAt)
    : Reaches env options second.writtenAt
        ((KeyCachingCall.getSigningKey kid first second).plain env client).state
        (history
          ++ ((KeyCachingCall.getSigningKey kid first second).plain env client).log) := by
  obtain ⟨earlier, notAfter, run⟩ := h
  exact ⟨_, le_refl _, run.step (.getSigningKey kid first second)
    ⟨⟨notAfter.trans orderedFirst.1, orderedFirst.2⟩, orderedSecond⟩⟩

/-- A fetch does what a refresh of the set does, besides reading the set. -/
theorem Reaches.fetching (h : Reaches env options clock client history) (response : Response)
    {now : Rat} (ordered : clock ≤ now)
    : Reaches env options now (PyJWKClient.fetchData response now client).state
        (history ++ (PyJWKClient.fetchData response now client).log) := by
  obtain ⟨earlier, notAfter, run⟩ := h
  have reached := run.step (.getJwkSet true ⟨now, response, now⟩)
    ⟨notAfter.trans ordered, le_refl now⟩
  rw [ClientCall.run, Stateful.map_run, PyJWKClient.getJwkSet_run,
    PyJWKClient.loadData_of_none (client.cachedJwkSet_refresh now)] at reached
  exact ⟨now, le_refl now, reached⟩

/-- A lookup without a `kid` lists the signing keys, and unless that fails lists them again. -/
theorem Reaches.lookupOfNone (h : Reaches env options clock client history)
    {first second : Turn} (orderedFirst : first.Follows clock)
    (orderedSecond : second.Follows first.writtenAt)
    : Reaches env options second.writtenAt
        (PyJWKClient.getSigningKeyOfNone env first second client).state
        (history ++ (PyJWKClient.getSigningKeyOfNone env first second client).log) := by
  have listed := h.listing false orderedFirst
  unfold PyJWKClient.getSigningKeyOfNone
  cases head : (PyJWKClient.getSigningKeys env false first client).result with
  | error error =>
      rw [Stateful.bind_of_error head]
      exact listed.later (orderedSecond.1.trans orderedSecond.2)
  | ok signingKeys =>
      rw [Stateful.bind_of_ok head, ← List.append_assoc]
      simp only [Stateful.raise, Stateful.bind_ofExcept]
      exact listed.listing true orderedSecond

/-- The call of a client without the per-key cache leads from a run to a run. -/
theorem Reaches.plain (h : Reaches env options clock client history) (call : KeyCachingCall)
    (ordered : call.Follows clock)
    : Reaches env options call.finishedAt (call.plain env client).state
        (history ++ (call.plain env client).log) := by
  have ended := h.later (call.le_finishedAt ordered)
  cases call with
  | fetchData response now =>
      rw [KeyCachingCall.plain, Stateful.map_run]
      exact h.fetching response ordered
  | getJwkSet refresh turn =>
      obtain ⟨earlier, notAfter, run⟩ := h
      exact ⟨_, le_refl _, run.step (.getJwkSet refresh turn)
        ⟨notAfter.trans ordered.1, ordered.2⟩⟩
  | getSigningKeys refresh turn => exact h.listing refresh ordered
  | getSigningKey kid first second => exact h.lookup kid ordered.1 ordered.2
  | getSigningKeyFromJwt decoder token now first second =>
      obtain ⟨decodes, orderedFirst, orderedSecond⟩ := ordered
      have started := h.later decodes
      cases named :
        (KeyCachingCall.getSigningKeyFromJwt decoder token now first second).kid? env with
      | some kid =>
          rw [(KeyCachingCall.fromJwt_of_kid named).2]
          exact started.lookup kid orderedFirst orderedSecond
      | none =>
          rw [KeyCachingCall.plain, Stateful.map_run]
          cases read : KeyCachingCall.unverified env decoder token now with
          | ok decoded =>
              have unnamed : (getOrNull decoded.header "kid").asStr? = none := by
                simpa only [KeyCachingCall.kid?, read] using named
              unfold KeyCachingCall.unverified at read
              simp only [PyJWKClient.getSigningKeyFromJwt, read, Stateful.liftM_eq_ofExcept,
                Stateful.ofExcept_ok_bind, unnamed]
              exact started.lookupOfNone orderedFirst orderedSecond
          | error error =>
              unfold KeyCachingCall.unverified at read
              simp only [PyJWKClient.getSigningKeyFromJwt, read, Stateful.liftM_eq_ofExcept,
                Stateful.ofExcept_error_bind]
              show Reaches env options second.writtenAt client (history ++ [])
              rw [List.append_nil]
              exact ended

end Reaches

/-- Every call of a client with the per-key cache is the call of one without it, or none. -/
theorem Reaches.run {options : CacheOptions} {clock : Rat} {client : KeyCachingClient}
    {history : List ClientEvent}
    (h : Reaches env options clock client.toPyJWKClient history) (call : KeyCachingCall)
    (ordered : call.Follows clock)
    : Reaches env options call.finishedAt (call.run env client).state.toPyJWKClient
        (history ++ (call.run env client).log) := by
  rcases KeyCachingCall.run_cases env call client with ⟨kid, key, _, _, ran⟩ | ran
  · rw [ran, List.append_nil]
    exact h.later (call.le_finishedAt ordered)
  · rw [ran]
    exact h.plain call ordered

theorem Run.reaches {options : CacheOptions} {clock : Rat} {client : KeyCachingClient}
    {history : List ClientEvent} {answers : List (PyStr × PyJWK)}
    (h : Run env options clock client history answers)
    : Reaches env options clock client.toPyJWKClient history := by
  induction h with
  | init clock constructed =>
      obtain ⟨inner, made, same⟩ := outcome_bind_eq_ok.mp constructed
      cases same
      exact ⟨clock, le_refl clock, .init clock made⟩
  | step _ call ordered ih => exact ih.run call ordered

/-- Every run is, to the endpoint and the JWK Set cache, a run of a client without the per-key
cache that has the same history. So what a call takes from the JWK Set cache is the response of
the most recent fetch, and not older than its lifespan.
-/
theorem Run.refines {options : CacheOptions} {clock : Rat} {client : KeyCachingClient}
    {history : List ClientEvent} {answers : List (PyStr × PyJWK)}
    (h : Run env options clock client history answers)
    : (∃ earlier,
        earlier ≤ clock
        ∧ PyJWKClient.Run env options.cacheJwkSet options.lifespan earlier
            client.toPyJWKClient history)
      ∧ Throughout (Fresh options.lifespan) history := by
  obtain ⟨earlier, notAfter, run⟩ := h.reaches
  exact ⟨⟨earlier, notAfter, run⟩, run.tracks.fresh⟩

theorem Run.refines_answered
    : ∃ client history key,
        Run bareEnv roomForOne 0 client history [("b", key)]
        ∧ Throughout (Fresh 300) history := by
  obtain ⟨client, history, key, run⟩ := exists_answeredRun
  exact ⟨client, history, key, run, run.refines.2⟩

-----------------------------------------------------------------------------------------
-- Where the answers come from
-----------------------------------------------------------------------------------------

/-- The endpoint served the data during the history. -/
def Served (history : List ClientEvent) (data : Json) : Prop :=
  ∃ now, ClientEvent.fetched (.json data) now ∈ history

theorem Served.append {history : List ClientEvent} {data : Json} (h : Served history data)
    (more : List ClientEvent)
    : Served (history ++ more) data := by
  obtain ⟨now, member⟩ := h
  exact ⟨now, List.mem_append_left more member⟩

/-- Whatever an event of a run provides was served by the endpoint, then or before. -/
theorem served_of_data {lifespan : Rat} {history : List ClientEvent}
    (fresh : Throughout (Fresh lifespan) history) {event : ClientEvent} {data : Json}
    (member : event ∈ history) (provides : event.data? = some data)
    : Served history data := by
  cases event with
  | fetched response now =>
      cases response with
      | json value =>
          cases provides
          exact ⟨now, member⟩
      | unreachable reason => cases provides
      | raised error => cases provides
  | cached value now =>
      cases provides
      obtain ⟨before, after, split⟩ := List.append_of_mem member
      obtain ⟨stored, last, _, _⟩ := fresh before _ after split
      obtain ⟨event, earlier, shown⟩ := List.mem_filterMap.mp (List.mem_of_getLast? last)
      have served : Served before data := by
        cases event with
        | fetched response at_ =>
            cases shown
            exact ⟨stored, earlier⟩
        | cached other at_ => cases shown
      rw [split]
      exact served.append _

/-- Each answer is a signing key with the `kid`, of a set that the endpoint has served. -/
def Sourced (env : Env) (history : List ClientEvent) (answers : List (PyStr × PyJWK)) : Prop :=
  ∀ kid key,
    (kid, key) ∈ answers
    → ∃ data, Served history data ∧ PyJWKClient.Identifies env kid data key

/-- What a client without the per-key cache answers with comes from data its call used. -/
theorem plain_answer {call : KeyCachingCall} {kid : PyStr} (named : call.kid? env = some kid)
    {client : PyJWKClient} {keys : List PyJWK}
    (returned : (call.plain env client).result = .ok keys)
    : ∃ key,
        keys = [key]
        ∧ ∃ event ∈ (call.plain env client).log, ∃ data,
            event.data? = some data ∧ PyJWKClient.Identifies env kid data key := by
  obtain ⟨first, second, _, same⟩ := KeyCachingCall.eq_of_kid named
  rw [same, KeyCachingCall.plain, Stateful.map_run] at returned ⊢
  obtain ⟨earlier, event, logged, provided⟩ :=
    @PyJWKClient.endsWith_getSigningKey env kid first second client
  cases found : (PyJWKClient.getSigningKey env kid first second client).result with
  | error error =>
      rw [found] at returned
      cases returned
  | ok key =>
      rw [found] at returned
      cases returned
      refine ⟨key, rfl, event, ?_, provided key found⟩
      simp [logged]

section Sources

variable {options : CacheOptions} {clock : Rat} {client : KeyCachingClient}
  {history : List ClientEvent} {answers : List (PyStr × PyJWK)}

/-- A lookup answers from what the endpoint has served, if the answers before it did. -/
theorem sourced_call (h : Run env options clock client history answers)
    (sourced : Sourced env history answers) (call : KeyCachingCall)
    (ordered : call.Follows clock) {kid : PyStr} (named : call.kid? env = some kid)
    {keys : List PyJWK} (returned : (call.run env client).result = .ok keys)
    : ∃ key data,
        keys = [key]
        ∧ Served (history ++ (call.run env client).log) data
        ∧ PyJWKClient.Identifies env kid data key := by
  have fresh := (h.step call ordered).reaches.choose_spec.2.tracks.fresh
  rcases KeyCachingCall.run_cases env call client with ⟨other, key, sameName, found, ran⟩ | ran
  · rw [ran] at returned ⊢
    cases named.symm.trans sameName
    cases returned
    obtain ⟨before, after, rfl, _⟩ := (cachedKey_eq_some_iff h.remembers).mp found
    obtain ⟨data, served, identifies⟩ := sourced kid key (by simp)
    exact ⟨key, data, rfl, served.append [], identifies⟩
  · rw [ran] at returned fresh ⊢
    obtain ⟨key, rfl, event, member, data, provides, identifies⟩ := plain_answer named returned
    refine ⟨key, data, rfl, ?_, identifies⟩
    exact served_of_data fresh (List.mem_append_right history member) provides

/-- All answers of a run come from what the endpoint served in it, by induction on the calls. -/
theorem Run.sourced (h : Run env options clock client history answers)
    : Sourced env history answers := by
  induction h with
  | init clock constructed =>
      intro kid key member
      cases member
  | @step clock client history answers h call ordered ih =>
      intro kid key member
      rcases List.mem_append.mp member with before | now
      · obtain ⟨data, served, identifies⟩ := ih kid key before
        exact ⟨data, served.append _, identifies⟩
      · obtain ⟨named, keys, returned, listed⟩ := KeyCachingCall.mem_answered.mp now
        obtain ⟨only, data, rfl, served, identifies⟩ :=
          sourced_call h ih call ordered named returned
        cases List.mem_singleton.mp listed
        exact ⟨data, served, identifies⟩

/-- In every run, whatever the caches hold and however requests failed, a lookup answers with
one signing key that has the `kid` and was in a set that the endpoint served in this run.
-/
theorem Run.lookup_served (h : Run env options clock client history answers)
    (call : KeyCachingCall) (ordered : call.Follows clock) {kid : PyStr}
    (named : call.kid? env = some kid) {keys : List PyJWK}
    (returned : (call.run env client).result = .ok keys)
    : ∃ key data,
        keys = [key]
        ∧ key.keyId = .str kid
        ∧ (key.publicKeyUse = .str "sig" ∨ key.publicKeyUse = .null)
        ∧ Served (history ++ (call.run env client).log) data
        ∧ ∃ jwkSet, PyJWKClient.readJwkSet env data = .ok jwkSet ∧ key ∈ jwkSet.keys := by
  obtain ⟨key, data, rfl, served, jwkSet, read, member, signing, hasKid⟩ :=
    sourced_call h h.sourced call ordered named returned
  exact ⟨
    key, data, rfl, hasKid, PyJWKClient.publicKeyUse_of_isSigningKey signing, served, jwkSet,
    read, member
  ⟩

theorem Run.lookup_served_first
    : ∃ key data,
        (lookupServed.run bareEnv unused).result = .ok [key]
        ∧ key.keyId = .str "b"
        ∧ Served (lookupServed.run bareEnv unused).log data := by
  obtain ⟨key, returned⟩ := lookupServed_run
  obtain ⟨only, data, same, hasKid, _, served, _⟩ := run_init_unused.lookup_served lookupServed
    ⟨⟨le_refl 0, le_refl 0⟩, ⟨le_refl 0, le_refl 0⟩⟩ rfl returned
  cases same
  exact ⟨key, data, returned, hasKid, served⟩

end Sources

-----------------------------------------------------------------------------------------
-- Answers that are never renewed
-----------------------------------------------------------------------------------------

section Renewal

variable {options : CacheOptions} {clock : Rat} {client : KeyCachingClient}
  {history : List ClientEvent} {answers : List (PyStr × PyJWK)}

end Renewal

end KeyCachingClient

end PyJwt
