/-
# One commit for a key

The idempotency middleware looks a key up before the handler runs, and stores the response
after the handler has returned. In between nothing keeps another request with the same key
out. So a key is committed at most once if its requests come one after the other, keys are
found and stored, none is deleted, and the result of a commit gets to the middleware. This
is what `Orderly` says. Two requests with one key that overlap may both be committed.
-/

import PaymentGateway.MockBank.Answers

namespace PaymentGateway.MockBank

open Lib

namespace Server

variable {bank : Bank} {start : Db} {s s' : Server} {i : ℕ} {r : ServerRequest}
  {path : Path} {key : GoString}

/-- What the middleware is made for. -/
def Orderly (s : Server) : ServerEvent → Prop
  | .arrive _ api key => ∀ j r, s.requests j = some r → r.api.path = api.path → r.key = key →
      r.phase = .closed
  | .act _ (.lookup fails) => fails = false
  | .act _ (.store fails) => fails = false
  | .act _ (.commitFails committed _) => committed = false
  | .act i .lose => ∀ r response, s.requests i = some r → r.phase ≠ .storing response
  | .cleanup => s.cleanupIdempotencyKeys = s.cache
  | _ => True

/-- A transaction was committed for a path and a key. -/
structure Commits (s : Server) (path : Path) (key : GoString)
    (e : Entry Env Call Reply Result) : Prop where
  recorded : e ∈ s.sessions.history
  committed : commits e.result = true
  request : ∃ r, s.requests e.id = some r ∧ r.api.path = path ∧ r.key = key

/-- Where the requests with a key are, and what has been committed for it. -/
structure Once (s : Server) : Prop where
  alone : ∀ i j r r', s.requests i = some r → s.requests j = some r' → r.phase ≠ .closed →
    r'.phase ≠ .closed → r.api.path = r'.api.path → r.key = r'.key → i = j
  fresh : ∀ i r caching, s.requests i = some r →
    r.phase = .passed caching ∨ r.phase = .running caching →
    caching = true ∧ s.cache r.api.path r.key = none ∧ ∀ e, ¬ s.Commits r.api.path r.key e
  unset : ∀ i r response, s.requests i = some r → r.phase = .storing response →
    s.cache r.api.path r.key = none
  kept : ∀ path key e, s.Commits path key e → (s.cache path key).isSome = true ∨
    ∃ r response, s.requests e.id = some r ∧ r.phase = .storing response
  single : ∀ path key e e', s.Commits path key e → s.Commits path key e' → e = e'

theorem Once.initial (db : Db) (clock : Time) : Once (initial db clock) where
  alone _ _ _ _ h := by cases h
  fresh _ _ _ h := by cases h
  unset _ _ _ h := by cases h
  kept _ _ _ h := by cases h.recorded
  single _ _ _ _ h := by cases h.recorded

/-- What was committed before a step in which a request goes on. -/
theorem Commits.of_setPhase {phase : RequestPhase} {sessions : BankSessions}
    {cache : Path → GoString → Option CachedResponse} {answers : List (ℕ × Response)}
    {e : Entry Env Call Reply Result} (known : s.requests i = some r)
    (h : Commits { s.setPhase i r phase with sessions, cache, answers } path key e)
    (old : e ∈ s.sessions.history) : s.Commits path key e := by
  obtain ⟨r', hr', hpath, hkey⟩ := h.request
  obtain ⟨before, hbefore, hapi, hbeforekey⟩ := request_of_setPhase known hr'
  exact ⟨old, h.committed, before, hbefore, hapi ▸ hpath, hbeforekey ▸ hkey⟩

/-- The requests with one key are still apart when one goes on. -/
theorem Once.alone_setPhase {phase : RequestPhase} (once : Once s) (known : s.requests i = some r)
    (isOpen : phase ≠ .closed → r.phase ≠ .closed) {j k : ℕ} {r₁ r₂ : ServerRequest}
    (h₁ : (s.setPhase i r phase).requests j = some r₁)
    (h₂ : (s.setPhase i r phase).requests k = some r₂) (open₁ : r₁.phase ≠ .closed)
    (open₂ : r₂.phase ≠ .closed) (hpath : r₁.api.path = r₂.api.path) (hkey : r₁.key = r₂.key) :
    j = k := by
  rcases setPhase_cases h₁ with ⟨old₁, -⟩ | ⟨rfl, rfl⟩ <;>
    rcases setPhase_cases h₂ with ⟨old₂, -⟩ | ⟨rfl, rfl⟩
  · exact once.alone j k r₁ r₂ old₁ old₂ open₁ open₂ hpath hkey
  · exact once.alone j k r₁ r old₁ known open₁ (isOpen open₂) hpath hkey
  · exact once.alone j k r r₂ known old₂ (isOpen open₁) open₂ hpath hkey
  · rfl

/-- A step in which a request goes on, and nothing is committed or stored. -/
theorem Once.proceed {phase : RequestPhase} {sessions : BankSessions}
    {answers : List (ℕ × Response)} (once : Once s) (known : s.requests i = some r)
    (isOpen : phase ≠ .closed → r.phase ≠ .closed)
    (unstored : ∀ response, r.phase ≠ .storing response)
    (quiet : ∀ e ∈ sessions.history, commits e.result = true → e ∈ s.sessions.history)
    (fresh : ∀ caching, phase = .passed caching ∨ phase = .running caching →
      caching = true ∧ s.cache r.api.path r.key = none ∧ ∀ e, ¬ s.Commits r.api.path r.key e)
    (unstores : ∀ response, phase ≠ .storing response) :
    Once { s.setPhase i r phase with sessions, answers } := by
  have hcommits : ∀ {path key e},
      Commits { s.setPhase i r phase with sessions, answers } path key e → s.Commits path key e :=
    fun h => h.of_setPhase known (quiet _ h.recorded h.committed)
  constructor
  · intro j k r₁ r₂ h₁ h₂
    exact once.alone_setPhase known isOpen h₁ h₂
  · intro j r' caching h hphase
    rcases setPhase_cases h with ⟨hold, -⟩ | ⟨rfl, rfl⟩
    · obtain ⟨hcaching, hcache, hnone⟩ := once.fresh j r' caching hold hphase
      exact ⟨hcaching, hcache, fun e he => hnone e (hcommits he)⟩
    · obtain ⟨hcaching, hcache, hnone⟩ := fresh caching hphase
      exact ⟨hcaching, hcache, fun e he => hnone e (hcommits he)⟩
  · intro j r' response h hphase
    rcases setPhase_cases h with ⟨hold, -⟩ | ⟨rfl, rfl⟩
    · exact once.unset j r' response hold hphase
    · exact absurd hphase (unstores response)
  · intro path key e he
    refine (once.kept path key e (hcommits he)).imp_right ?_
    rintro ⟨r', response, hr', hphase⟩
    have hne : e.id ≠ i := by
      intro heq
      rw [heq, known] at hr'
      cases hr'
      exact unstored response hphase
    exact ⟨r', response, (setPhase_requests_of_ne hne).trans hr', hphase⟩
  · exact fun path key e e' he he' => once.single path key e e' (hcommits he) (hcommits he')

/-- A request arrives whose key no open request has. -/
theorem Once.arrive {api : ApiRequest} (once : Once s) (absent : s.requests i = none)
    (inv : Inv bank start s) (orderly : s.Orderly (.arrive i api key)) :
    Once (s.setPhase i ⟨api, key, .arrived⟩ .arrived) := by
  -- Nothing has been recorded for the new request.
  have hne : ∀ e ∈ s.sessions.history, e.id ≠ i := by
    rintro e he rfl
    obtain ⟨r', _, hr', -⟩ := inv.recorded e he
    cases absent.symm.trans hr'
  have hcommits : ∀ {path key' e},
      Commits (s.setPhase i ⟨api, key, .arrived⟩ .arrived) path key' e → s.Commits path key' e := by
    rintro path key' e ⟨hrecorded, hcommitted, r', hr', hrest⟩
    obtain ⟨hold, -⟩ | ⟨hid, -⟩ := setPhase_cases hr'
    · exact ⟨hrecorded, hcommitted, r', hold, hrest⟩
    · exact absurd hid (hne e hrecorded)
  constructor
  · intro j k r₁ r₂ h₁ h₂ open₁ open₂ hpath hkey
    rcases setPhase_cases h₁ with ⟨old₁, -⟩ | ⟨rfl, rfl⟩ <;>
      rcases setPhase_cases h₂ with ⟨old₂, -⟩ | ⟨rfl, rfl⟩
    · exact once.alone j k r₁ r₂ old₁ old₂ open₁ open₂ hpath hkey
    · exact absurd (orderly j r₁ old₁ hpath hkey) open₁
    · exact absurd (orderly k r₂ old₂ hpath.symm hkey.symm) open₂
    · rfl
  · intro j r' caching h hphase
    rcases setPhase_cases h with ⟨hold, -⟩ | ⟨-, rfl⟩
    · obtain ⟨hcaching, hcache, hnone⟩ := once.fresh j r' caching hold hphase
      exact ⟨hcaching, hcache, fun e he => hnone e (hcommits he)⟩
    · rcases hphase with hphase | hphase <;> cases hphase
  · intro j r' response h hphase
    rcases setPhase_cases h with ⟨hold, -⟩ | ⟨-, rfl⟩
    · exact once.unset j r' response hold hphase
    · cases hphase
  · intro path key' e he
    refine (once.kept path key' e (hcommits he)).imp_right ?_
    rintro ⟨r', response, hr', hphase⟩
    exact ⟨r', response, (setPhase_requests_of_ne (hne e he.recorded)).trans hr', hphase⟩
  · exact fun path key' e e' he he' => once.single path key' e e' (hcommits he) (hcommits he')

/-- The transaction of a request is committed, and its response is to be stored. -/
theorem Once.commit {caching : Bool} {response : Response} {sessions : BankSessions}
    {entry : Entry Env Call Reply Result} (once : Once s) (known : s.requests i = some r)
    (phase : r.phase = .running caching) (hid : entry.id = i)
    (history : sessions.history = entry :: s.sessions.history) :
    Once { s.setPhase i r (.storing response) with sessions } := by
  obtain ⟨-, hcache, hnone⟩ := once.fresh i r caching known (.inr phase)
  have isOpen : r.phase ≠ .closed := by
    rw [phase]
    exact RequestPhase.noConfusion
  -- The new commit is the first one for its key.
  have hcommits : ∀ {path key e},
      Commits { s.setPhase i r (.storing response) with sessions } path key e →
      s.Commits path key e ∨ e = entry ∧ path = r.api.path ∧ key = r.key := by
    intro path key e h
    have hrecorded := h.recorded
    dsimp only at hrecorded
    rw [history] at hrecorded
    rcases List.mem_cons.mp hrecorded with rfl | hold
    · obtain ⟨r', hr', rfl, rfl⟩ := h.request
      obtain ⟨-, hne⟩ | ⟨-, rfl⟩ := setPhase_cases hr'
      · exact absurd hid hne
      · exact .inr ⟨rfl, rfl, rfl⟩
    · exact .inl (h.of_setPhase known hold)
  constructor
  · intro j k r₁ r₂ h₁ h₂
    exact once.alone_setPhase known (fun _ => isOpen) h₁ h₂
  · intro j r' other h hphase
    rcases setPhase_cases h with ⟨hold, hne⟩ | ⟨rfl, rfl⟩
    · obtain ⟨hcaching, hcache', hnone'⟩ := once.fresh j r' other hold hphase
      refine ⟨hcaching, hcache', fun e he => ?_⟩
      rcases hcommits he with he | ⟨-, hpath, hkey⟩
      · exact hnone' e he
      · refine hne (once.alone j i r' r hold known ?_ isOpen hpath hkey)
        rcases hphase with hphase | hphase <;> rw [hphase] <;> exact RequestPhase.noConfusion
    · rcases hphase with hphase | hphase <;> cases hphase
  · intro j r' response' h hphase
    rcases setPhase_cases h with ⟨hold, -⟩ | ⟨rfl, rfl⟩
    · exact once.unset j r' response' hold hphase
    · exact hcache
  · intro path key e he
    rcases hcommits he with hold | ⟨rfl, -, -⟩
    · refine (once.kept path key e hold).imp_right ?_
      rintro ⟨r', response', hr', hphase⟩
      have hne : e.id ≠ i := by
        intro heq
        rw [heq, known] at hr'
        cases hr'
        cases phase.symm.trans hphase
      exact ⟨r', response', (setPhase_requests_of_ne hne).trans hr', hphase⟩
    · refine .inr ⟨{ r with phase := .storing response }, response, ?_, rfl⟩
      rw [hid]
      exact setPhase_requests_self
  · intro path key e e' he he'
    rcases hcommits he with hold | ⟨rfl, rfl, rfl⟩ <;>
      rcases hcommits he' with hold' | ⟨rfl, hpath, hkey⟩
    · exact once.single path key e e' hold hold'
    · exact absurd (hpath ▸ hkey ▸ hold) (hnone e)
    · exact absurd hold' (hnone e')
    · rfl

theorem storeKey_self {response : Response} (h : s.cache path key = none) :
    s.storeKey path key response path key = some ⟨response, s.clock⟩ := by
  simp [storeKey, h]

theorem storeKey_of_ne {response : Response} {path' : Path} {key' : GoString}
    (hne : ¬ (path' = path ∧ key' = key)) :
    s.storeKey path key response path' key' = s.cache path' key' := by
  cases h : s.cache path key with
  | some there => simp only [storeKey, h]
  | none =>
    simp only [storeKey, h]
    rcases eq_or_ne path' path with rfl | hpath
    · rw [Function.update_self, Function.update_of_ne fun hkey => hne ⟨rfl, hkey⟩]
    · rw [Function.update_of_ne hpath]

/-- The response of a request is stored. -/
theorem Once.store {response : Response} (once : Once s) (known : s.requests i = some r)
    (phase : r.phase = .storing response) :
    Once { s.setPhase i r (.responding response) with
      cache := s.storeKey r.api.path r.key response } := by
  have isOpen : r.phase ≠ .closed := by
    rw [phase]
    exact RequestPhase.noConfusion
  have hcommits : ∀ {path key e}, Commits { s.setPhase i r (.responding response) with
      cache := s.storeKey r.api.path r.key response } path key e → s.Commits path key e :=
    fun h => h.of_setPhase known h.recorded
  -- No other open request has the key that is stored.
  have hother : ∀ {j r'}, s.requests j = some r' → j ≠ i → r'.phase ≠ .closed →
      s.storeKey r.api.path r.key response r'.api.path r'.key = s.cache r'.api.path r'.key :=
    fun hold hne hopen => storeKey_of_ne fun heq =>
      hne (once.alone _ i _ r hold known hopen isOpen heq.1 heq.2)
  constructor
  · intro j k r₁ r₂ h₁ h₂
    exact once.alone_setPhase known (fun _ => isOpen) h₁ h₂
  · intro j r' caching h hphase
    rcases setPhase_cases h with ⟨hold, hne⟩ | ⟨rfl, rfl⟩
    · obtain ⟨hcaching, hcache, hnone⟩ := once.fresh j r' caching hold hphase
      refine ⟨hcaching, (hother hold hne ?_).trans hcache, fun e he => hnone e (hcommits he)⟩
      rcases hphase with hphase | hphase <;> rw [hphase] <;> exact RequestPhase.noConfusion
    · rcases hphase with hphase | hphase <;> cases hphase
  · intro j r' response' h hphase
    rcases setPhase_cases h with ⟨hold, hne⟩ | ⟨rfl, rfl⟩
    · refine (hother hold hne ?_).trans (once.unset j r' response' hold hphase)
      rw [hphase]
      exact RequestPhase.noConfusion
    · cases hphase
  · intro path key e he
    have hstored : (s.storeKey r.api.path r.key response r.api.path r.key).isSome = true := by
      rw [storeKey_self (once.unset i r response known phase)]
      rfl
    by_cases hsame : path = r.api.path ∧ key = r.key
    · obtain ⟨rfl, rfl⟩ := hsame
      exact .inl hstored
    · rcases once.kept path key e (hcommits he) with hcached | ⟨r', response', hr', hphase⟩
      · refine .inl ?_
        dsimp only
        rwa [storeKey_of_ne hsame]
      · refine .inr ⟨r', response', (setPhase_requests_of_ne ?_).trans hr', hphase⟩
        intro heq
        obtain ⟨r₁, hr₁, hpath, hkey⟩ := (hcommits he).request
        rw [heq, known, Option.some_inj] at hr₁
        exact hsame ⟨by rw [← hpath, hr₁], by rw [← hkey, hr₁]⟩
  · exact fun path key e e' he he' => once.single path key e e' (hcommits he) (hcommits he')

theorem Once.step {e : ServerEvent} (once : Once s) (inv : Inv bank start s)
    (orderly : s.Orderly e) (rule : Rule bank s e s') : Once s' := by
  -- A handler that returns an error has nothing to store.
  have hreturned : ∀ {i r caching sessions}, s.requests i = some r →
      r.phase = .passed caching ∨ r.phase = .running caching → ∀ {response},
      shouldCacheResponse response = false →
      (∀ e ∈ sessions.history, commits e.result = true → e ∈ s.sessions.history) →
      Once { s.setPhase i r (returned caching response) with sessions } := by
    intro i r caching sessions known hphase response huncached quiet
    rw [returned_of_not_cached huncached]
    refine once.proceed known ?_ ?_ quiet (by simp) (by simp)
    · rcases hphase with hphase | hphase <;> simp [hphase]
    · rcases hphase with hphase | hphase <;> simp [hphase]
  have hquiet : ∀ {inner sessions}, bank.step s.sessions inner = some sessions →
      (∀ i, inner ≠ .finish i) →
      ∀ e ∈ sessions.history, commits e.result = true → e ∈ s.sessions.history := by
    intro inner sessions taken hne e he hcommitted
    refine ((Sessions.step_cases taken).committed_cases he hcommitted).resolve_right fun heq => ?_
    cases inner <;> cases heq
    exact hne _ rfl
  have hsame : ∀ e ∈ s.sessions.history, commits e.result = true → e ∈ s.sessions.history :=
    fun _ he _ => he
  cases rule with
  | arrive i api key absent given => exact once.arrive absent inv orderly
  | overlook => cases orderly
  | replay i r cached known phase hit =>
    exact once.proceed known (by simp [phase]) (by simp [phase]) hsame (by simp) (by simp)
  | miss i r known phase absent =>
    refine once.proceed known (by simp [phase]) (by simp [phase]) hsame ?_ (by simp)
    rintro caching (heq | heq)
    · cases heq
      refine ⟨rfl, absent, fun e he => ?_⟩
      -- What is committed but not stored belongs to an open request, which is this one.
      rcases once.kept _ _ e he with hcached | ⟨r', response, hr', hphase⟩
      · rw [absent] at hcached
        cases hcached
      · obtain ⟨r₁, hr₁, hpath, hkey⟩ := he.request
        obtain rfl := Option.some.inj (hr'.symm.trans hr₁)
        have hid := once.alone _ i _ r hr' known (by simp [hphase]) (by simp [phase]) hpath hkey
        rw [hid, known] at hr'
        cases hr'
        cases phase.symm.trans hphase
    · cases heq
  | injectFailure i r caching known phase =>
    exact once.proceed known (by simp [phase]) (by simp [phase]) hsame (by simp) (by simp)
  | reject i r caching response known phase unparsed =>
    exact hreturned known (.inl phase) (idle_of_serviceRequest unparsed).not_cached hsame
  | beginFails i r caching text known phase => exact hreturned known (.inl phase) rfl hsame
  | start i r caching request sessions known phase parsed taken =>
    refine once.proceed known (by simp [phase]) (by simp [phase]) (hquiet taken (by simp)) ?_
      (by simp)
    rintro other (heq | heq)
    · cases heq
    · cases heq
      exact once.fresh i r caching known (.inl phase)
  | call i r caching id failure sessions known phase taken =>
    refine once.proceed known (by simp [phase]) (by simp [phase]) (hquiet taken (by simp)) ?_
      (by simp [phase])
    exact fun other heq => once.fresh i r other known heq
  | finish i r caching result sessions known phase ended taken =>
    obtain ⟨session, hrunning, hscript⟩ := Option.map_eq_some_iff.mp ended
    cases Sessions.step_cases taken with
    | commit _ session' result' running' script' ends' =>
      obtain rfl := Option.some.inj (hrunning.symm.trans running')
      obtain rfl := Script.done.inj (hscript.symm.trans script')
      cases result with
      | error failure => cases ends'
      | ok t =>
        obtain ⟨rfl, -⟩ := once.fresh i r caching known (.inr phase)
        exact once.commit known phase rfl rfl
    | rollback _ session' result' running' script' fails' =>
      obtain rfl := Option.some.inj (hrunning.symm.trans running')
      obtain rfl := Script.done.inj (hscript.symm.trans script')
      cases result with
      | error failure =>
        exact hreturned known (.inr phase) (shouldCacheResponse_refused _ failure) hsame
      | ok t => cases fails'
  | commitFails i r caching t committed text sessions known phase ended taken =>
    obtain rfl : committed = false := orderly
    exact hreturned known (.inr phase) rfl (hquiet taken (by simp))
  | store i r response fails known phase =>
    obtain rfl : fails = false := orderly
    exact once.store known phase
  | respond i r response known phase =>
    exact once.proceed known (by simp [phase]) (by simp [phase]) hsame (by simp) (by simp)
  | lose i r known idle =>
    exact once.proceed known (by simp) (orderly r · known) hsame (by simp) (by simp)
  | abort i r caching sessions known phase taken =>
    exact once.proceed known (by simp [phase]) (by simp [phase]) (hquiet taken (by simp))
      (by simp) (by simp)
  | cleanup =>
    have hcache : s.cleanupIdempotencyKeys = s.cache := orderly
    rw [hcache]
    exact once
  | tick d =>
    have hcommits : ∀ {path key e}, Commits { s with clock := s.clock + d } path key e →
        s.Commits path key e := fun h => ⟨h.recorded, h.committed, h.request⟩
    refine ⟨once.alone, fun i r caching known hphase => ?_, once.unset,
      fun path key e he => once.kept path key e (hcommits he),
      fun path key e e' he he' => once.single path key e e' (hcommits he) (hcommits he')⟩
    obtain ⟨hcaching, hcache, hnone⟩ := once.fresh i r caching known hphase
    exact ⟨hcaching, hcache, fun e he => hnone e (hcommits he)⟩

/-- The states that are reached in orderly steps. -/
def OrderlyReachable (bank : Bank) (db : Db) (s : Server) : Prop :=
  ∃ clock, Reaches (Server.step bank) Orderly (initial db clock) s

theorem OrderlyReachable.reachable (h : OrderlyReachable bank start s) :
    Reachable bank start s := by
  obtain ⟨clock, run⟩ := h
  exact ⟨clock, run.mono fun _ _ _ => trivial⟩

theorem OrderlyReachable.once (h : OrderlyReachable bank start s) : Once s := by
  obtain ⟨clock, run⟩ := h
  refine run.invariant (.initial start clock) fun s e s' before once orderly taken => ?_
  have hbefore : OrderlyReachable bank start s := ⟨clock, before⟩
  exact once.step hbefore.reachable.inv orderly (step_cases taken)

end Server

end PaymentGateway.MockBank
