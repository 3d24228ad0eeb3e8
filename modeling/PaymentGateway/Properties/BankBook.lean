/-
# The bank keeps its book

However transactions interleave, fail and are cut off, the bank's committed tables are
a book of holds: every step of the bank leaves the book as it is or makes one step of
it. A hold never goes back, the money in every account is accounted for, and whatever
settles a hold or a capture does so once and in full.
-/

import PaymentGateway.MockBank.Refinement
import PaymentGateway.Properties.BankTransactions

namespace PaymentGateway.MockBank

open Lib

variable {bank : Bank} {start : Db} {s s' : BankSessions}

/-! ## Invariants of the committed tables -/

theorem Bank.Reachable.sound (empty : start.transactions = []) (h : bank.Reachable start s) :
    s.db.Sound :=
  h.invariant (.empty empty) fun _ _ _ _ sound posts => sound.post posts

/-- The balances are what the book leaves of the opening balances. -/
def Db.Balanced (start db : Db) : Prop :=
  ∀ id, db.accounts id = (start.accounts id).map
    (·.adjust (-Book.total Hold.spent id db.book) (-Book.total Hold.blocked id db.book))

/-- No account has a negative available balance. -/
def Db.Solvent (db : Db) : Prop :=
  ∀ id account, db.accounts id = some account → 0 ≤ account.availableBalanceCents

theorem Account.adjust_adjust (account : Account) (b v b' v' : ℤ) :
    (account.adjust b v).adjust b' v' = account.adjust (b + b') (v + v') := by
  simp [Account.adjust, add_assoc]

theorem Account.adjust_zero (account : Account) : account.adjust 0 0 = account := by
  simp [Account.adjust]

theorem Db.book_of_empty {db : Db} (empty : db.transactions = []) : db.book = [] := by
  simp [Db.book, empty]

theorem Db.Balanced.initial (empty : start.transactions = []) : start.Balanced start := by
  intro id
  simp [Db.book_of_empty empty, Account.adjust_zero]

theorem Db.Balanced.moved {db db' : Db} {account : UUID} {b v : ℤ} (h : Db.Balanced start db)
    (moved : Moved db db' account b v) : Db.Balanced start db' := by
  intro id
  rw [moved.accounts, Db.accounts_adjust, h id, Option.map_map, moved.spent, moved.blocked]
  congr 1
  funext opening
  simp only [Function.comp_apply]
  split
  · rw [Account.adjust_adjust]
    congr 1 <;> omega
  · simp

theorem Db.Solvent.post {db db' : Db} {request : ServiceRequest} {t : Transaction}
    (sound : db.Sound) (h : db.Solvent) (posts : bank.Posts db request t db') : db'.Solvent := by
  -- It is enough to look at the account that is adjusted.
  have hadjusted : ∀ {account : UUID} {b v : ℤ}, (∀ before, db.accounts account = some before →
      0 ≤ before.availableBalanceCents + v) → ∀ id current,
      (db.adjust account b v).accounts id = some current → 0 ≤ current.availableBalanceCents := by
    intro account b v hmoved id current hcurrent
    rw [Db.accounts_adjust, Option.map_eq_some_iff] at hcurrent
    obtain ⟨before, hbefore, rfl⟩ := hcurrent
    split
    · next heq => exact hmoved before (heq ▸ hbefore)
    · exact h id before hbefore
  have hpositive : ∀ {id row}, db.transaction? id = some row → 0 < row.amountCents :=
    fun found => sound.positive _ (Db.mem_of_transaction? found)
  cases posts with
  | authorize valid found known funds created =>
    refine hadjusted fun before hbefore => ?_
    obtain ⟨id, -, haccount⟩ := Option.bind_eq_some_iff.mp found
    rw [db.keyed id _ haccount, haccount] at hbefore
    cases hbefore
    omega
  | capture found type active created =>
    exact hadjusted fun before hbefore => by simpa using h _ before hbefore
  | void found type active uncaptured created =>
    refine hadjusted fun before hbefore => ?_
    have hbalance := h _ before hbefore
    have hamount := hpositive found
    omega
  | refund found type completed created =>
    refine hadjusted fun before hbefore => ?_
    have hbalance := h _ before hbefore
    have hamount := hpositive found
    omega

theorem Bank.Reachable.balanced (empty : start.transactions = []) (solvent : start.Solvent)
    (h : bank.Reachable start s) : Db.Balanced start s.db ∧ s.db.Solvent := by
  have hall : s.db.Sound ∧ Db.Balanced start s.db ∧ s.db.Solvent := by
    refine h.invariant (P := fun db => db.Sound ∧ Db.Balanced start db ∧ db.Solvent)
      ⟨.empty empty, .initial empty, solvent⟩ ?_
    rintro db request t db' ⟨sound, hbalanced, hsolvent⟩ posts
    obtain ⟨account, b, v, moved⟩ := posts.moved sound
    exact ⟨sound.post posts, hbalanced.moved moved, hsolvent.post sound posts⟩
  exact hall.2

/-! ## Steps of the bank are steps of the book -/

/-- A step of the bank changes nothing that is committed, or it commits a posting. -/
theorem Bank.Reachable.step_cases {e : BankEvent} (h : bank.Reachable start s)
    (taken : bank.step s e = some s') :
    s'.db = s.db ∨ ∃ request t, bank.Posts s.db request t s'.db := by
  have rule := Sessions.step_cases taken
  generalize bank.event e = event at rule
  cases rule with
  | start | call | rollback | abort => exact .inl rfl
  | commit id session result running script granted =>
    cases result with
    | error failure => cases granted
    | ok t =>
      obtain ⟨request, -, posts⟩ := h.posts_of_commit running script
      exact .inr ⟨request, t, posts⟩

theorem Bank.Posts.book_step {db db' : Db} {request : ServiceRequest} {t : Transaction}
    (posts : bank.Posts db request t db') (sound : db.Sound) : Book.Step db.book db'.book := by
  obtain ⟨account, b, v, moved⟩ := posts.moved sound
  exact moved.step

/-- Every step of the bank leaves the book as it is or makes one step of it. -/
theorem Bank.step_refines_book {e : BankEvent} (empty : start.transactions = [])
    (h : bank.Reachable start s) (taken : bank.step s e = some s') :
    s'.db.book = s.db.book ∨ Book.Step s.db.book s'.db.book := by
  obtain hsame | ⟨request, t, posts⟩ := h.step_cases taken
  · exact .inl (by rw [hsame])
  · exact .inr (posts.book_step (h.sound empty))

/-- A capture commits. -/
theorem Bank.step_refines_book_sample : ∃ s s', Sample.bank.Reachable Sample.db s ∧
    Sample.bank.step s (.finish 1) = some s' ∧ s'.db.book ≠ s.db.book ∧
    (s'.db.book = s.db.book ∨ Book.Step s.db.book s'.db.book) := by
  obtain ⟨s, hs, hproperty⟩ := Sample.exists_reachable (fun s =>
    (Sample.bank.step s (.finish 1)).any fun s' => s'.db.book ≠ s.db.book)
    (Sample.capturing ++ Sample.calls 1 (Sample.uuid 3) 6) (by decide +kernel)
  cases htaken : Sample.bank.step s (.finish 1) with
  | none =>
    rw [htaken] at hproperty
    cases hproperty
  | some s' =>
    rw [htaken, Option.any_some, decide_eq_true_eq] at hproperty
    exact ⟨s, s', hs, htaken, hproperty, Bank.step_refines_book rfl hs htaken⟩

/-- A run of the bank is a run of the book. -/
theorem Bank.Reachable.book_run (empty : start.transactions = []) (h : bank.Reachable start s)
    (later : Reaches bank.step (fun _ _ => True) s s') :
    Relation.ReflTransGen Book.Step s.db.book s'.db.book := by
  induction later with
  | refl => exact .refl
  | @tail mid _ e run _ taken ih =>
    have hbefore : bank.Reachable start mid := h.trans run
    obtain hsame | ⟨request, t, posts⟩ := hbefore.step_cases taken
    · rwa [hsame]
    · exact ih.tail (posts.book_step (hbefore.sound empty))

/-- A hold stays in the book, with its account and its amount, and its state only moves on. -/
theorem Bank.hold_only_moves_on (empty : start.transactions = []) (h : bank.Reachable start s)
    (later : Reaches bank.step (fun _ _ => True) s s') {hold : Hold} (hmem : hold ∈ s.db.book) :
    ∃ state, { hold with state } ∈ s'.db.book ∧
      Relation.ReflTransGen HoldState.Moves hold.state state :=
  Book.keeps_of_run (h.book_run empty later) hmem

/-- The hold of the sample run is open, and then captured. -/
theorem Bank.hold_only_moves_on_sample : ∃ s s', Sample.bank.Reachable Sample.db s ∧
    Reaches Sample.bank.step (fun _ _ => True) s s' ∧
    ∃ state, ⟨Sample.uuid 2, Sample.uuid 1, 500, state⟩ ∈ s'.db.book ∧
      Relation.ReflTransGen HoldState.Moves .open state := by
  obtain ⟨s, hs, hproperty⟩ := Sample.exists_reachable (fun s =>
    s.db.book = [⟨Sample.uuid 2, Sample.uuid 1, 500, .open⟩] &&
      (execWhere Sample.bank.step (fun _ _ => true) s (Sample.calls 1 (Sample.uuid 3) 6 ++
        [.finish 1])).isSome) Sample.capturing (by decide +kernel)
  rw [Bool.and_eq_true, decide_eq_true_eq] at hproperty
  obtain ⟨s', hrun⟩ := Option.isSome_iff_exists.mp hproperty.2
  have hlater : Reaches Sample.bank.step (fun _ _ => True) s s' :=
    reaches_of_execWhere (fun _ _ _ => trivial) hrun
  have hmem : (⟨Sample.uuid 2, Sample.uuid 1, 500, .open⟩ : Hold) ∈ s.db.book := by
    rw [hproperty.1]
    exact List.mem_singleton_self _
  exact ⟨s, s', hs, hlater, Bank.hold_only_moves_on rfl hs hlater hmem⟩

/-! ## Money -/

theorem Db.Sound.pos_of_mem_book {db : Db} (sound : db.Sound) {hold : Hold} (h : hold ∈ db.book) :
    0 < hold.amount := by
  obtain ⟨row, hrow, rfl⟩ := List.mem_map.mp h
  exact sound.positive row (List.mem_filter.mp hrow).1

/-- Each account has its opening balance without what its captured holds have taken, and of
that is available what its open holds leave. It is never overdrawn, and never has more than it
had when it was opened. -/
theorem Bank.money_is_accounted_for (empty : start.transactions = []) (solvent : start.Solvent)
    (h : bank.Reachable start s) {id : UUID} {opening : Account}
    (opened : start.accounts id = some opening) :
    ∃ current, s.db.accounts id = some current ∧
      current.balanceCents = opening.balanceCents - Book.total Hold.spent id s.db.book ∧
      current.availableBalanceCents =
        opening.availableBalanceCents - Book.total Hold.blocked id s.db.book ∧
      0 ≤ current.availableBalanceCents ∧ current.balanceCents ≤ opening.balanceCents ∧
      current.availableBalanceCents ≤ opening.availableBalanceCents ∧
      opening.balanceCents - opening.availableBalanceCents ≤
        current.balanceCents - current.availableBalanceCents := by
  obtain ⟨hbalanced, hsolvent⟩ := h.balanced empty solvent
  have hcurrent := hbalanced id
  rw [opened, Option.map_some] at hcurrent
  have hpositive : ∀ hold ∈ s.db.book, 0 < hold.amount := fun _ => (h.sound empty).pos_of_mem_book
  have hspent : 0 ≤ Book.total Hold.spent id s.db.book := by
    refine Book.total_nonneg _ _ fun hold hmem => ?_
    have hamount := hpositive hold hmem
    unfold Hold.spent
    split <;> omega
  have hblocked : Book.total Hold.spent id s.db.book ≤ Book.total Hold.blocked id s.db.book := by
    refine Book.total_mono _ fun hold hmem => ?_
    have hamount := hpositive hold hmem
    cases hstate : hold.state <;> simp [Hold.spent, Hold.blocked, hstate, hamount.le]
  have havailable := hsolvent id _ hcurrent
  simp only [Account.adjust] at havailable
  exact ⟨_, hcurrent, rfl, rfl, havailable, by simp only [Account.adjust]; omega,
    by simp only [Account.adjust]; omega, by simp only [Account.adjust]; omega⟩

theorem Sample.solvent : Sample.db.Solvent := by
  intro id account h
  obtain ⟨-, rfl⟩ : _ ∧ Sample.account = account := by simpa [Sample.db] using h
  decide

theorem Bank.money_is_accounted_for_sample : ∃ s current, Sample.bank.Reachable Sample.db s ∧
    s.db.accounts (Sample.uuid 1) = some current ∧
    current.balanceCents = Sample.account.balanceCents -
      Book.total Hold.spent (Sample.uuid 1) s.db.book ∧
    Book.total Hold.spent (Sample.uuid 1) s.db.book = 500 := by
  obtain ⟨s, hs, hproperty⟩ := Sample.exists_reachable (fun s =>
    Book.total Hold.spent (Sample.uuid 1) s.db.book = 500) Sample.settled (by decide +kernel)
  obtain ⟨current, hcurrent, hbalance, -⟩ :=
    Bank.money_is_accounted_for rfl Sample.solvent hs
      (show Sample.db.accounts (Sample.uuid 1) = some Sample.account from rfl)
  exact ⟨s, current, hs, hcurrent, hbalance, of_decide_eq_true hproperty⟩

/-! ## Settlements -/

/-- A row that refers to another one has its account, its amount and its currency, and no other
row refers to it: a hold is captured or voided once and not both, a capture is refunded once. -/
theorem Bank.settled_once (empty : start.transactions = []) (h : bank.Reachable start s)
    {t : Transaction} (hmem : t ∈ s.db.transactions) {id : UUID} (href : t.referenceID = some id) :
    ∃ r ∈ s.db.transactions, r.id = id ∧ Settles t r ∧
      ∀ other ∈ s.db.transactions, other.referenceID = some id → other = t := by
  have sound := h.sound empty
  have htype : t.type ≠ .authHold := by
    intro hhold
    rw [sound.original t hmem hhold] at href
    cases href
  obtain ⟨r, hr, hsettles⟩ := sound.settles t hmem htype
  refine ⟨r, hr, Option.some.inj (hsettles.reference.symm.trans href), hsettles, ?_⟩
  exact fun other hother href' => sound.eq_of_reference hmem hother href href'

/-- The capture of the sample run is the only row that refers to the hold. -/
theorem Bank.settled_once_sample : ∃ s t, Sample.bank.Reachable Sample.db s ∧
    t ∈ s.db.transactions ∧ t.referenceID = some (Sample.uuid 2) ∧
    ∃ r ∈ s.db.transactions, r.id = Sample.uuid 2 ∧ Settles t r ∧
      ∀ other ∈ s.db.transactions, other.referenceID = some (Sample.uuid 2) → other = t := by
  obtain ⟨s, hs, hproperty⟩ := Sample.exists_reachable (fun s =>
    s.db.transactions.any fun t => t.referenceID = some (Sample.uuid 2))
    Sample.settled (by decide +kernel)
  obtain ⟨t, hmem, href⟩ := List.any_eq_true.mp hproperty
  have href := of_decide_eq_true href
  exact ⟨s, t, hs, hmem, href, Bank.settled_once rfl hs hmem href⟩

end PaymentGateway.MockBank
