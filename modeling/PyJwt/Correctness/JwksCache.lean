import Mathlib.Tactic.Linarith
import PyJwt.Foundations.History
import PyJwt.Implementation.JwksClient

/-! The JWK Set cache over whole runs of a client: it holds the response of the most recent
fetch of the run, whatever calls were made and however their requests ended.
-/

namespace PyJwt

open Foundations
open Python

variable {env : Env}

-----------------------------------------------------------------------------------------
-- The cache as a function of the history
-----------------------------------------------------------------------------------------

/-- What the event shows of the endpoint. -/
def ClientEvent.fetch? : ClientEvent → Option (Response × Rat)
  | fetched response now => some (response, now)
  | cached _ _ => none

/-- The data the event provides to its call. -/
def ClientEvent.data? : ClientEvent → Option Json
  | fetched (.json value) _ => some value
  | fetched (.unreachable _) _ | fetched (.raised _) _ => none
  | cached data _ => some data

/-- The most recent fetch, with the time its response was stored. -/
def lastFetch (history : List ClientEvent) : Option (Response × Rat) :=
  latest ClientEvent.fetch? history

@[simp] theorem lastFetch_fetched (history : List ClientEvent) (response : Response) (now : Rat)
    : lastFetch (history ++ [.fetched response now]) = some (response, now) := by
  have shown : (ClientEvent.fetched response now).fetch? = some (response, now) := rfl
  exact latest_concat_of_some shown history

@[simp] theorem lastFetch_cached (history : List ClientEvent) (data : Json) (now : Rat)
    : lastFetch (history ++ [.cached data now]) = lastFetch history :=
  latest_concat_of_none rfl history

/-- The data to keep after the history: that of the most recent fetch unless it failed. -/
def keptData (history : List ClientEvent) : Option (Json × Rat) :=
  match lastFetch history with
  | some (response, now) =>
      if isNone response.jwkSet then none else some (response.jwkSet, now)
  | none => none

/-- What the cache holds. -/
def JWKSetCache.content (self : JWKSetCache) : Option (Json × Rat) :=
  if isNone self.jwkSet then none else some (self.jwkSet, self.timestamp)

/-- What is kept is the response of the most recent fetch, and that fetch did not fail. -/
theorem lastFetch_of_keptData {history : List ClientEvent} {data : Json} {now : Rat}
    (h : keptData history = some (data, now))
    : lastFetch history = some (.json data, now) := by
  unfold keptData at h
  split at h
  · rename_i response stored found
    split at h
    · cases h
    · rename_i some
      cases h
      cases response with
      | json value => exact found
      | unreachable reason => exact absurd rfl some
      | raised error => exact absurd rfl some
  · cases h

@[simp] theorem JWKSetCache.content_init (lifespan : Rat) : (init lifespan).content = none :=
  rfl

theorem JWKSetCache.content_put (self : JWKSetCache) (jwkSet : Json) (now : Rat)
    : (self.put jwkSet now).content = if isNone jwkSet then none else some (jwkSet, now) := by
  unfold put content
  cases none : isNone jwkSet <;> simp [none]
  rfl

@[simp] theorem JWKSetCache.lifespan_put (self : JWKSetCache) (jwkSet : Json) (now : Rat)
    : (self.put jwkSet now).lifespan = self.lifespan := by
  unfold put
  split <;> rfl

/-- What the cache shows is what it holds, at most its lifespan after it was stored. -/
theorem JWKSetCache.get_eq {self : JWKSetCache} (positive : 0 < self.lifespan) (now : Rat)
    : self.get now
      = match self.content with
        | none => .null
        | some (data, stored) => if now > stored + self.lifespan then .null else data := by
  have finite : self.lifespan > -1 := by linarith
  unfold get content isExpired
  cases none : isNone self.jwkSet <;> simp [finite]

theorem JWKSetCache.get_of_alive {self : JWKSetCache} (positive : 0 < self.lifespan) {now : Rat}
    (some : isNone self.jwkSet = false) (alive : now ≤ self.timestamp + self.lifespan)
    : self.get now = self.jwkSet := by
  rw [get_eq positive]
  simp [content, some, not_lt.mpr alive]

/-- The value that is `None` is the JSON `null`. -/
theorem isNone_iff {value : Json} : isNone value = true ↔ value = .null := by
  cases value <;> simp [isNone]

-----------------------------------------------------------------------------------------
-- What each call does
-----------------------------------------------------------------------------------------

namespace PyJWKClient

/-- What a request returns or raises. -/
def responseOutcome : Response → Outcome Json
  | .json value => .ok value
  | .unreachable reason =>
      .error ⟨
        .pyJWKClientConnectionError,
        [.text "Fail to fetch data from the url, err: \"", .str reason, .text "\""]
      ⟩
  | .raised error => .error error

theorem fetchData_eq (response : Response) (now : Rat) (self : PyJWKClient)
    : fetchData response now self
      = ⟨
          self.putJwkSet response.jwkSet now,
          [.fetched response now],
          responseOutcome response
        ⟩ := by
  cases response <;> rfl

theorem loadData_eq (refresh : Bool) (turn : Turn) (self : PyJWKClient)
    : loadData refresh turn self
      = if isNone (self.cachedJwkSet refresh turn.readAt) then
          fetchData turn.response turn.writtenAt self
        else
          ⟨
            self,
            [.cached (self.cachedJwkSet refresh turn.readAt) turn.readAt],
            .ok (self.cachedJwkSet refresh turn.readAt)
          ⟩ := by
  unfold loadData
  rw [Stateful.bind_of_ok rfl]
  show Step.mk _ _ _ = _
  simp only [Stateful.view, List.nil_append]
  split <;> rfl

/-- Nothing comes from the cache when a refresh is asked for. -/
theorem cachedJwkSet_refresh (now : Rat) (self : PyJWKClient)
    : self.cachedJwkSet true now = .null := by
  unfold cachedJwkSet
  cases self.jwkSetCache <;> rfl

theorem loadData_of_none {refresh : Bool} {turn : Turn} {self : PyJWKClient}
    (h : self.cachedJwkSet refresh turn.readAt = .null)
    : loadData refresh turn self = fetchData turn.response turn.writtenAt self := by
  rw [loadData_eq, h]
  exact if_pos rfl

theorem loadData_of_cached {refresh : Bool} {turn : Turn} {self : PyJWKClient} {data : Json}
    (h : self.cachedJwkSet refresh turn.readAt = data) (some : isNone data = false)
    : loadData refresh turn self = ⟨self, [.cached data turn.readAt], .ok data⟩ := by
  rw [loadData_eq, h, some]
  exact if_neg Bool.false_ne_true

/-- The set of keys that a response is read as. -/
def readJwkSet (env : Env) (data : Json) : Outcome PyJWKSet :=
  match data.asDict? with
  | none =>
      .error ⟨.pyJWKClientError, [.text "The JWKS endpoint did not return a JSON object"]⟩
  | some obj => PyJWKSet.fromDict env obj

/-- The signing keys of a set. -/
def listSigningKeys (jwkSet : PyJWKSet) : Outcome (List PyJWK) :=
  if (jwkSet.keys.filter isSigningKey).isEmpty then
    .error
      ⟨.pyJWKClientError, [.text "The JWKS endpoint did not contain any signing keys"]⟩
  else .ok (jwkSet.keys.filter isSigningKey)

/-- The signing keys that a response is read as. -/
def readSigningKeys (env : Env) (data : Json) : Outcome (List PyJWK) :=
  readJwkSet env data >>= listSigningKeys

/-- The lookup in the refreshed keys. -/
def requireKid (kid : PyStr) (signingKeys : List PyJWK) : Outcome PyJWK :=
  match matchKid signingKeys kid with
  | some signingKey => .ok signingKey
  | none =>
      .error ⟨
        .pyJWKClientError,
        [.text "Unable to find a signing key that matches: \"", .str kid, .text "\""]
      ⟩

theorem getJwkSet_eq (refresh : Bool) (turn : Turn)
    : getJwkSet env refresh turn
      = (loadData refresh turn >>= fun data => Stateful.ofExcept (readJwkSet env data)) := by
  unfold getJwkSet readJwkSet
  congr 1
  funext data
  cases data.asDict? <;> rfl

theorem getSigningKeys_eq (refresh : Bool) (turn : Turn)
    : getSigningKeys env refresh turn
      = (getJwkSet env refresh turn >>= fun jwkSet =>
          Stateful.ofExcept (listSigningKeys jwkSet)) := by
  unfold getSigningKeys listSigningKeys
  congr 1
  funext jwkSet
  cases h : (jwkSet.keys.filter isSigningKey).isEmpty <;> simp only [h] <;> rfl

theorem getJwkSet_run (refresh : Bool) (turn : Turn) (self : PyJWKClient)
    : getJwkSet env refresh turn self
      = ⟨
          (loadData refresh turn self).state,
          (loadData refresh turn self).log,
          (loadData refresh turn self).result >>= readJwkSet env
        ⟩ := by
  rw [getJwkSet_eq, Stateful.bind_ofExcept]

theorem getSigningKeys_run (refresh : Bool) (turn : Turn) (self : PyJWKClient)
    : getSigningKeys env refresh turn self
      = ⟨
          (loadData refresh turn self).state,
          (loadData refresh turn self).log,
          (loadData refresh turn self).result >>= readSigningKeys env
        ⟩ := by
  rw [getSigningKeys_eq, Stateful.bind_ofExcept, getJwkSet_run]
  cases (loadData refresh turn self).result <;> rfl

theorem getSigningKey_eq (kid : PyStr) (first second : Turn)
    : getSigningKey env kid first second
      = (getSigningKeys env false first >>= fun signingKeys =>
          match matchKid signingKeys kid with
          | some signingKey => pure signingKey
          | none =>
              getSigningKeys env true second >>= fun signingKeys =>
                Stateful.ofExcept (requireKid kid signingKeys)) := by
  unfold getSigningKey requireKid
  congr 1
  funext signingKeys
  cases matchKid signingKeys kid with
  | some signingKey => rfl
  | none =>
      simp only
      congr 1
      funext refreshed
      cases matchKid refreshed kid <;> rfl

/-- A lookup whose keys cannot be listed ends there. -/
theorem getSigningKey_of_error {kid : PyStr} {first second : Turn} {self : PyJWKClient}
    {error : PyError} (failed : (getSigningKeys env false first self).result = .error error)
    : getSigningKey env kid first second self
      = ⟨
          (getSigningKeys env false first self).state,
          (getSigningKeys env false first self).log,
          .error error
        ⟩ := by
  rw [getSigningKey_eq, Stateful.bind_of_error failed]

/-- A match in the first keys is the answer. -/
theorem getSigningKey_of_match {kid : PyStr} {first second : Turn} {self : PyJWKClient}
    {signingKeys : List PyJWK} {key : PyJWK}
    (listed : (getSigningKeys env false first self).result = .ok signingKeys)
    (found : matchKid signingKeys kid = some key)
    : getSigningKey env kid first second self
      = ⟨
          (getSigningKeys env false first self).state,
          (getSigningKeys env false first self).log,
          .ok key
        ⟩ := by
  rw [getSigningKey_eq, Stateful.bind_of_ok listed, found]
  exact congrArg (Step.mk _ · _) (List.append_nil _)

/-- Without a match in the first keys the lookup is made again after a refresh. -/
theorem getSigningKey_of_miss {kid : PyStr} {first second : Turn} {self : PyJWKClient}
    {signingKeys : List PyJWK}
    (listed : (getSigningKeys env false first self).result = .ok signingKeys)
    (missing : matchKid signingKeys kid = none)
    : getSigningKey env kid first second self
      = let head := getSigningKeys env false first self
        let tail := getSigningKeys env true second head.state
        ⟨tail.state, head.log ++ tail.log, tail.result >>= requireKid kid⟩ := by
  rw [getSigningKey_eq, Stateful.bind_of_ok listed, missing]
  simp only [Stateful.bind_ofExcept]

end PyJWKClient

-----------------------------------------------------------------------------------------
-- Runs
-----------------------------------------------------------------------------------------

/-- A call of a client, with what the outside world shows it. -/
inductive ClientCall
  | getJwkSet (refresh : Bool) (turn : Turn)
  | getSigningKeys (refresh : Bool) (turn : Turn)
  | getSigningKey (kid : PyStr) (first second : Turn)

namespace ClientCall

/-- The call, answering with the keys of the set, the signing keys, or the one key. -/
def run (env : Env) : ClientCall → ClientRun (List PyJWK)
  | getJwkSet refresh turn => PyJWKSet.keys <$> PyJWKClient.getJwkSet env refresh turn
  | getSigningKeys refresh turn => PyJWKClient.getSigningKeys env refresh turn
  | getSigningKey kid first second =>
      List.singleton <$> PyJWKClient.getSigningKey env kid first second

/-- The call is made with `refresh=True`. -/
def refreshes : ClientCall → Bool
  | getJwkSet refresh _ | getSigningKeys refresh _ => refresh
  | getSigningKey _ _ _ => false

/-- The clock after the call. -/
def finishedAt : ClientCall → Rat
  | getJwkSet _ turn | getSigningKeys _ turn => turn.writtenAt
  | getSigningKey _ _ second => second.writtenAt

end ClientCall

/-- The clock does not go back from `clock` on. -/
def Turn.Follows (clock : Rat) (turn : Turn) : Prop :=
  clock ≤ turn.readAt ∧ turn.readAt ≤ turn.writtenAt

/-- The clock does not go back from `clock` on, through the whole call. -/
def ClientCall.Follows (clock : Rat) : ClientCall → Prop
  | getJwkSet _ turn | getSigningKeys _ turn => turn.Follows clock
  | getSigningKey _ first second => first.Follows clock ∧ second.Follows first.writtenAt

/-- The clients and histories that a constructor call and later calls lead to, with the clock
afterwards.
-/
inductive PyJWKClient.Run (env : Env) (cacheJwkSet : Bool) (lifespan : Rat)
    : Rat → PyJWKClient → List ClientEvent → Prop
  | init {client : PyJWKClient} (clock : Rat)
      (constructed : PyJWKClient.init cacheJwkSet lifespan = .ok client)
    : Run env cacheJwkSet lifespan clock client []
  | step {clock : Rat} {client : PyJWKClient} {history : List ClientEvent}
      (h : Run env cacheJwkSet lifespan clock client history) (call : ClientCall)
      (ordered : call.Follows clock)
    : Run env cacheJwkSet lifespan call.finishedAt (call.run env client).state
        (history ++ (call.run env client).log)

/-- The event does not provide stale or foreign data: what comes from the cache is the response
of the most recent fetch, stored at most `lifespan` before.
-/
def Fresh (lifespan : Rat) (before : List ClientEvent) : ClientEvent → Prop
  | .cached data now =>
      ∃ stored,
        lastFetch before = some (.json data, stored)
        ∧ stored ≤ now
        ∧ now ≤ stored + lifespan
  | .fetched _ _ => True

/-- What links a client to the history of its run. -/
structure Tracks (lifespan clock : Rat) (client : PyJWKClient) (history : List ClientEvent)
    : Prop where
  cache : ∀ cache,
    client.jwkSetCache = some cache
    → cache.lifespan = lifespan ∧ 0 < lifespan ∧ cache.content = keptData history
  past : ∀ response stored, lastFetch history = some (response, stored) → stored ≤ clock
  fresh : Throughout (Fresh lifespan) history

namespace PyJWKClient

/-- A client with a cache needs a positive lifespan, and starts with nothing in it. -/
theorem init_eq_ok {lifespan : Rat} (positive : 0 < lifespan)
    : init true lifespan = .ok ⟨some (.init lifespan)⟩ :=
  if_neg (not_le.mpr positive)

/-- A constructed client tracks the empty history. -/
theorem tracks_init {cacheJwkSet : Bool} {lifespan : Rat} {client : PyJWKClient}
    (h : init cacheJwkSet lifespan = .ok client) (clock : Rat)
    : Tracks lifespan clock client [] := by
  refine ⟨?_, by simp [lastFetch], throughout_nil _⟩
  intro cache present
  unfold init at h
  split at h
  · split at h
    · cases h
    · rename_i positive
      cases h
      cases present
      exact ⟨rfl, lt_of_not_ge positive, rfl⟩
  · cases h
    cases present

/-- A client goes on tracking its history while the clock advances. -/
theorem tracks_later {lifespan clock later : Rat} {client : PyJWKClient}
    {history : List ClientEvent} (advances : clock ≤ later)
    (h : Tracks lifespan clock client history)
    : Tracks lifespan later client history :=
  ⟨h.cache, fun response stored found => (h.past response stored found).trans advances, h.fresh⟩

/-- A fetch leaves in the cache what the history with that fetch says. -/
theorem tracks_fetchData {lifespan clock : Rat} (response : Response) (now : Rat)
    : (fetchData response now).Moves (Tracks lifespan clock) (Tracks lifespan now) := by
  intro client history tracks
  rw [fetchData_eq]
  refine ⟨?_, ?_, throughout_concat.mpr ⟨tracks.fresh, trivial⟩⟩
  · intro cache present
    obtain ⟨earlier, stored, rfl⟩ := Option.map_eq_some_iff.mp present
    obtain ⟨sameLifespan, positive, _⟩ := tracks.cache earlier stored
    refine ⟨(earlier.lifespan_put _ _).trans sameLifespan, positive, ?_⟩
    rw [earlier.content_put]
    simp only [keptData, lastFetch_fetched]
  · intro other stored found
    simp only [lastFetch_fetched] at found
    cases found
    exact le_refl now

/-- What a tracked client takes from its cache is fresh. -/
theorem fresh_cachedJwkSet {lifespan clock now : Rat} {client : PyJWKClient}
    {history : List ClientEvent} (tracks : Tracks lifespan clock client history)
    (advances : clock ≤ now) {refresh : Bool}
    (found : isNone (client.cachedJwkSet refresh now) = false)
    : Fresh lifespan history (.cached (client.cachedJwkSet refresh now) now) := by
  cases present : client.jwkSetCache with
  | none => simp [cachedJwkSet, present, isNone] at found
  | some cache =>
      cases refresh with
      | true => simp [cachedJwkSet, present, isNone] at found
      | false =>
          obtain ⟨rfl, positive, content⟩ := tracks.cache cache present
          have shown : client.cachedJwkSet false now = cache.get now := by
            simp [cachedJwkSet, present]
          rw [shown] at found ⊢
          rw [JWKSetCache.get_eq positive, content] at found ⊢
          cases kept : keptData history with
          | none => simp [kept, isNone] at found
          | some entry =>
              obtain ⟨data, stored⟩ := entry
              simp only [kept] at found ⊢
              split at found
              · simp [isNone] at found
              · rename_i alive
                rw [if_neg alive]
                have last := lastFetch_of_keptData kept
                exact ⟨stored, last, (tracks.past _ _ last).trans advances, le_of_not_gt alive⟩

/-- Getting data keeps the client tracking its history, from the cache or by a fetch. -/
theorem tracks_loadData {lifespan clock : Rat} (refresh : Bool) {turn : Turn}
    (ordered : turn.Follows clock)
    : (loadData refresh turn).Moves (Tracks lifespan clock)
        (Tracks lifespan turn.writtenAt) := by
  intro client history tracks
  rw [loadData_eq]
  split
  · exact tracks_fetchData turn.response turn.writtenAt client history tracks
  · rename_i found
    have fresh := fresh_cachedJwkSet tracks ordered.1 (Bool.not_eq_true _ ▸ found)
    refine ⟨?_, ?_, throughout_concat.mpr ⟨tracks.fresh, fresh⟩⟩
    · intro cache present
      simpa only [keptData, lastFetch_cached] using tracks.cache cache present
    · intro response stored last
      rw [lastFetch_cached] at last
      exact (tracks.past response stored last).trans (ordered.1.trans ordered.2)

theorem tracks_getJwkSet {lifespan clock : Rat} (refresh : Bool) {turn : Turn}
    (ordered : turn.Follows clock)
    : (getJwkSet env refresh turn).Moves (Tracks lifespan clock)
        (Tracks lifespan turn.writtenAt) := by
  rw [getJwkSet_eq]
  exact (tracks_loadData refresh ordered).judge _

theorem tracks_getSigningKeys {lifespan clock : Rat} (refresh : Bool) {turn : Turn}
    (ordered : turn.Follows clock)
    : (getSigningKeys env refresh turn).Moves (Tracks lifespan clock)
        (Tracks lifespan turn.writtenAt) := by
  rw [getSigningKeys_eq]
  exact (tracks_getJwkSet refresh ordered).judge _

/-- The retry starts where the first lookup ended. -/
theorem tracks_getSigningKey {lifespan clock : Rat} (kid : PyStr) {first second : Turn}
    (orderedFirst : first.Follows clock) (orderedSecond : second.Follows first.writtenAt)
    : (getSigningKey env kid first second).Moves (Tracks lifespan clock)
        (Tracks lifespan second.writtenAt) := by
  have advances : first.writtenAt ≤ second.writtenAt :=
    orderedSecond.1.trans orderedSecond.2
  rw [getSigningKey_eq]
  refine (tracks_getSigningKeys false orderedFirst).bind ?_ (fun _ _ => tracks_later advances)
  intro signingKeys
  cases matchKid signingKeys kid with
  | some signingKey =>
      exact .of_silent (fun _ => rfl) (fun _ => rfl) (fun _ _ => tracks_later advances)
  | none => exact (tracks_getSigningKeys true orderedSecond).judge _

/-- Every call keeps the client tracking its history. -/
theorem tracks_run {lifespan clock : Rat} {call : ClientCall} (ordered : call.Follows clock)
    : (call.run env).Moves (Tracks lifespan clock) (Tracks lifespan call.finishedAt) := by
  cases call with
  | getJwkSet refresh turn => exact (tracks_getJwkSet refresh ordered).judge _
  | getSigningKeys refresh turn => exact tracks_getSigningKeys refresh ordered
  | getSigningKey kid first second => exact (tracks_getSigningKey kid ordered.1 ordered.2).judge _

/-- Every run leads to a client that tracks its history, by induction on the calls. -/
theorem Run.tracks {cacheJwkSet : Bool} {lifespan clock : Rat} {client : PyJWKClient}
    {history : List ClientEvent} (h : Run env cacheJwkSet lifespan clock client history)
    : Tracks lifespan clock client history := by
  induction h with
  | init clock constructed => exact tracks_init constructed clock
  | step _ call ordered ih => exact tracks_run ordered _ _ ih

-----------------------------------------------------------------------------------------
-- Answers
-----------------------------------------------------------------------------------------

/-- The last event of the run provides the data that its value comes from. -/
def EndsWith {α : Type} (run : ClientRun α) (comesFrom : Json → α → Prop) : Prop :=
  ∀ self, ∃ earlier event,
    (run self).log = earlier ++ [event]
    ∧ ∀ value,
        (run self).result = .ok value
        → ∃ data, event.data? = some data ∧ comesFrom data value

/-- A second stage either judges the value, and logs nothing, or provides data of its own. -/
theorem EndsWith.bind {α β : Type} {first : ClientRun α} {next : α → ClientRun β}
    {comesFrom : Json → α → Prop} {result : Json → β → Prop} (h : EndsWith first comesFrom)
    (rest : ∀ value,
      (∃ outcome,
        next value = Stateful.ofExcept outcome
        ∧ ∀ data output, comesFrom data value → outcome = .ok output → result data output)
      ∨ EndsWith (next value) result)
    : EndsWith (first >>= next) result := by
  intro self
  obtain ⟨earlier, event, logged, provided⟩ := h self
  cases returned : (first self).result with
  | error error =>
      rw [Stateful.bind_of_error returned]
      exact ⟨earlier, event, logged, nofun⟩
  | ok value =>
      rw [Stateful.bind_of_ok returned]
      rcases rest value with ⟨outcome, judges, judged⟩ | provides
      · rw [judges]
        refine ⟨earlier, event, (List.append_nil _).trans logged, ?_⟩
        intro output accepted
        obtain ⟨data, provides, source⟩ := provided value returned
        exact ⟨data, provides, judged data output source accepted⟩
      · obtain ⟨middle, last, loggedLast, providedLast⟩ := provides (first self).state
        refine ⟨(first self).log ++ middle, last, ?_, providedLast⟩
        rw [loggedLast, List.append_assoc]

theorem endsWith_loadData (refresh : Bool) (turn : Turn)
    : EndsWith (loadData refresh turn) (fun data value => value = data) := by
  intro self
  rw [loadData_eq]
  split
  · rw [fetchData_eq]
    refine ⟨[], .fetched turn.response turn.writtenAt, rfl, ?_⟩
    intro value returned
    cases response : turn.response with
    | json data =>
        simp only [response, responseOutcome, Except.ok.injEq] at returned
        exact ⟨data, rfl, returned.symm⟩
    | unreachable reason => simp [response, responseOutcome] at returned
    | raised error => simp [response, responseOutcome] at returned
  · refine ⟨[], _, rfl, ?_⟩
    intro value returned
    cases returned
    exact ⟨_, rfl, rfl⟩

theorem endsWith_getJwkSet (refresh : Bool) (turn : Turn)
    : EndsWith (getJwkSet env refresh turn)
        (fun data jwkSet => readJwkSet env data = .ok jwkSet) := by
  rw [getJwkSet_eq]
  refine (endsWith_loadData refresh turn).bind (fun value => Or.inl ⟨_, rfl, ?_⟩)
  intro data jwkSet same read
  exact same ▸ read

theorem endsWith_getSigningKeys (refresh : Bool) (turn : Turn)
    : EndsWith (getSigningKeys env refresh turn)
        (fun data signingKeys => ∃ jwkSet,
          readJwkSet env data = .ok jwkSet
          ∧ signingKeys = jwkSet.keys.filter isSigningKey) := by
  rw [getSigningKeys_eq]
  refine (endsWith_getJwkSet refresh turn).bind (fun jwkSet => Or.inl ⟨_, rfl, ?_⟩)
  intro data signingKeys read listed
  unfold listSigningKeys at listed
  split at listed
  · cases listed
  · cases listed
    exact ⟨jwkSet, read, rfl⟩

/-- The key is a signing key of the set that the data is read as, and has the `kid`. -/
def Identifies (env : Env) (kid : PyStr) (data : Json) (key : PyJWK) : Prop :=
  ∃ jwkSet,
    readJwkSet env data = .ok jwkSet
    ∧ key ∈ jwkSet.keys
    ∧ isSigningKey key = true
    ∧ key.keyId = .str kid

/-- A key that is found in listed signing keys is one of them. -/
theorem identifies_of_matchKid {data : Json} {signingKeys : List PyJWK} {kid : PyStr}
    {key : PyJWK}
    (source : ∃ jwkSet,
      readJwkSet env data = .ok jwkSet ∧ signingKeys = jwkSet.keys.filter isSigningKey)
    (found : matchKid signingKeys kid = some key)
    : Identifies env kid data key := by
  obtain ⟨jwkSet, read, rfl⟩ := source
  obtain ⟨member, signing⟩ := List.mem_filter.mp (List.mem_of_find?_eq_some found)
  have named : key.keyId.asStr? = some kid := by simpa using List.find?_some found
  exact ⟨jwkSet, read, member, signing, Json.asStr?_eq_some.mp named⟩

/-- A signing key is for signatures, or does not say what it is for. -/
theorem publicKeyUse_of_isSigningKey {key : PyJWK} (h : isSigningKey key = true)
    : key.publicKeyUse = .str "sig" ∨ key.publicKeyUse = .null := by
  unfold isSigningKey at h
  rw [Bool.and_eq_true, Bool.or_eq_true] at h
  rcases h.1 with isSig | isAbsent
  · exact Or.inl (Json.asStr?_eq_some.mp (of_decide_eq_true isSig))
  · exact Or.inr (isNone_iff.mp isAbsent)

theorem requireKid_eq_ok {kid : PyStr} {signingKeys : List PyJWK} {key : PyJWK}
    : requireKid kid signingKeys = .ok key ↔ matchKid signingKeys kid = some key := by
  unfold requireKid
  cases matchKid signingKeys kid with
  | none => simp
  | some found => simp

/-- The one key comes from the data of the first lookup, or of the refresh. -/
theorem endsWith_getSigningKey (kid : PyStr) (first second : Turn)
    : EndsWith (getSigningKey env kid first second) (Identifies env kid) := by
  rw [getSigningKey_eq]
  refine (endsWith_getSigningKeys false first).bind ?_
  intro signingKeys
  cases matched : matchKid signingKeys kid with
  | some signingKey =>
      refine Or.inl ⟨.ok signingKey, rfl, ?_⟩
      intro data key source returned
      cases returned
      exact identifies_of_matchKid source matched
  | none =>
      refine Or.inr ((endsWith_getSigningKeys true second).bind ?_)
      intro refreshed
      refine Or.inl ⟨_, rfl, ?_⟩
      intro data key source returned
      exact identifies_of_matchKid source (requireKid_eq_ok.mp returned)

end PyJWKClient

/-- What a call may answer with, given the data it used. -/
def ClientCall.Answers (env : Env) (data : Json) (keys : List PyJWK) (call : ClientCall) : Prop :=
  ∃ jwkSet,
    PyJWKClient.readJwkSet env data = .ok jwkSet
    ∧ match call with
      | getJwkSet _ _ => keys = jwkSet.keys
      | getSigningKeys _ _ => keys = jwkSet.keys.filter PyJWKClient.isSigningKey
      | getSigningKey kid _ _ =>
          ∃ key ∈ jwkSet.keys,
            keys = [key]
            ∧ key.keyId = .str kid
            ∧ (key.publicKeyUse = .str "sig" ∨ key.publicKeyUse = .null)

/-- Every call answers from the data of its last event. -/
theorem ClientCall.endsWith_run (call : ClientCall)
    : PyJWKClient.EndsWith (call.run env) (fun data keys => call.Answers env data keys) := by
  cases call with
  | getJwkSet refresh turn =>
      refine (PyJWKClient.endsWith_getJwkSet refresh turn).bind
        (fun jwkSet => Or.inl ⟨.ok jwkSet.keys, rfl, ?_⟩)
      intro data keys read returned
      cases returned
      exact ⟨jwkSet, read, rfl⟩
  | getSigningKeys refresh turn => exact PyJWKClient.endsWith_getSigningKeys refresh turn
  | getSigningKey kid first second =>
      refine (PyJWKClient.endsWith_getSigningKey kid first second).bind
        (fun key => Or.inl ⟨.ok [key], rfl, ?_⟩)
      intro data keys found returned
      cases returned
      obtain ⟨jwkSet, read, member, signing, named⟩ := found
      exact ⟨
        jwkSet, read, key, member, rfl, named,
        PyJWKClient.publicKeyUse_of_isSigningKey signing
      ⟩

/-- A call with `refresh=True` takes nothing from the cache. -/
theorem ClientCall.run_log_of_refreshes {call : ClientCall} (h : call.refreshes = true)
    (client : PyJWKClient)
    : ∃ response now, (call.run env client).log = [.fetched response now] := by
  have loads (turn : Turn)
      : (PyJWKClient.loadData true turn client).log
        = [.fetched turn.response turn.writtenAt] := by
    rw [PyJWKClient.loadData_of_none (client.cachedJwkSet_refresh turn.readAt),
      PyJWKClient.fetchData_eq]
  cases call with
  | getJwkSet refresh turn =>
      cases h
      refine ⟨turn.response, turn.writtenAt, ?_⟩
      have silent := Stateful.bind_ofExcept (PyJWKClient.getJwkSet env true turn)
        (fun jwkSet => .ok jwkSet.keys) client
      exact (congrArg Step.log silent).trans
        ((congrArg Step.log (PyJWKClient.getJwkSet_run true turn client)).trans (loads turn))
  | getSigningKeys refresh turn =>
      cases h
      refine ⟨turn.response, turn.writtenAt, ?_⟩
      exact (congrArg Step.log (PyJWKClient.getSigningKeys_run true turn client)).trans
        (loads turn)
  | getSigningKey kid first second => cases h

/-- Through every run, whatever a call takes from the cache is the response of the most recent
fetch, which did not fail, stored at most `lifespan` before. A call with `refresh=True` takes
nothing from the cache, and each call that returns answers from the data of its last event.
-/
theorem PyJWKClient.Run.answers {cacheJwkSet : Bool} {lifespan clock : Rat}
    {client : PyJWKClient} {history : List ClientEvent}
    (h : Run env cacheJwkSet lifespan clock client history) (call : ClientCall)
    (ordered : call.Follows clock)
    : Throughout (Fresh lifespan) (history ++ (call.run env client).log)
      ∧ (call.refreshes = true
        → ∃ response now, (call.run env client).log = [.fetched response now])
      ∧ ∃ earlier event,
          (call.run env client).log = earlier ++ [event]
          ∧ ∀ keys,
              (call.run env client).result = .ok keys
              → ∃ data, event.data? = some data ∧ call.Answers env data keys := by
  refine ⟨?_, fun refreshes => ClientCall.run_log_of_refreshes refreshes client, ?_⟩
  · exact (h.step call ordered).tracks.fresh
  · exact call.endsWith_run client

/-- A process without the `cryptography` package. -/
def bareEnv : Env := .withoutCryptography (fun _ _ _ => [])

/-- `{"keys":[{"kty":"oct","k":"a2s","kid":…}]}`. -/
def servedSet (kid : PyStr) : Json :=
  .dict [("keys", .list [.dict [("kty", .str "oct"), ("k", .str "a2s"), ("kid", .str kid)]])]

/-- A moment at which the endpoint cannot be reached. -/
def offline (now : Rat) : Turn := ⟨now, .unreachable "", now⟩

/-- A key is looked up in the set that was fetched a second before. -/
theorem PyJWKClient.Run.answers_cached
    : let load := ClientCall.getJwkSet false ⟨0, .json (servedSet "a"), 0⟩
      let lookup := ClientCall.getSigningKey "a" (offline 1) (offline 1)
      let client := (load.run bareEnv ⟨some (.init 1)⟩).state
      Throughout (Fresh 1) [.fetched (.json (servedSet "a")) 0, .cached (servedSet "a") 1]
      ∧ ∃ keys,
          (lookup.run bareEnv client).result = .ok keys
          ∧ lookup.Answers bareEnv (servedSet "a") keys := by
  intro load lookup client
  have run : Run bareEnv true 1 0 client [.fetched (.json (servedSet "a")) 0] :=
    (Run.init 0 (init_eq_ok zero_lt_one)).step load ⟨le_refl 0, le_refl 0⟩
  have alive : (1 : Rat) ≤ 0 + 1 := by norm_num
  have shown : client.cachedJwkSet false 1 = (servedSet "a") :=
    JWKSetCache.get_of_alive zero_lt_one rfl alive
  obtain ⟨signingKeys, listed, matched⟩ := of_returnsWith
    (by decide : returnsWith (fun keys => (PyJWKClient.matchKid keys "a").isSome)
      (PyJWKClient.readSigningKeys bareEnv (servedSet "a")) = true)
  obtain ⟨key, found⟩ := Option.isSome_iff_exists.mp matched
  have first : getSigningKeys bareEnv false (offline 1) client
      = ⟨client, [.cached (servedSet "a") 1], .ok signingKeys⟩ := by
    rw [getSigningKeys_run, loadData_of_cached shown rfl, outcome_ok_bind, listed]
    rfl
  have whole : getSigningKey bareEnv "a" (offline 1) (offline 1) client
      = ⟨client, [.cached (servedSet "a") 1], .ok key⟩ := by
    rw [getSigningKey_of_match (congrArg Step.result first) found, first]
  have ran : lookup.run bareEnv client = ⟨client, [.cached (servedSet "a") 1], .ok [key]⟩ := by
    show (getSigningKey bareEnv "a" (offline 1) (offline 1)
      >>= fun key => Stateful.ofExcept (.ok [key])) client = _
    rw [Stateful.bind_ofExcept, whole, outcome_ok_bind]
  obtain ⟨fresh, _, earlier, event, log, answers⟩ :=
    run.answers lookup ⟨⟨zero_le_one, le_refl 1⟩, ⟨le_refl 1, le_refl 1⟩⟩
  rw [ran] at fresh log answers ⊢
  refine ⟨fresh, [key], rfl, ?_⟩
  obtain ⟨data, provides, answered⟩ := answers [key] rfl
  have last : [] ++ [ClientEvent.cached (servedSet "a") 1] = earlier ++ [event] := log
  obtain ⟨_, same⟩ := List.append_inj' last rfl
  cases same
  cases provides
  exact answered

end PyJwt
