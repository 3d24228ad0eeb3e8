/-
# The tables keep the book of holds

The committed tables hold a book: a hold row is open while it is active, and otherwise
the rows that refer to it say what has become of it. Every posting is a step of the
book, and the balances are what the book leaves of the opening balances.

This needs the tables to be sound: ids are unique, a settlement has the account and the
amount of the row it settles, and a hold is active just while neither a capture nor a
void refers to it.
-/

import PaymentGateway.MockBank.Postings
import PaymentGateway.MockBank.Book

namespace PaymentGateway.MockBank

open Lib

namespace Db

/-! ## The book in the tables -/

/-- The id of the row that settles another one. -/
def settlement? (db : Db) (key : UUID × TransactionType) : Option UUID :=
  (db.referring? key).map (·.id)

/-- What has become of a hold. -/
def stateOf (db : Db) (hold : Transaction) : HoldState :=
  match hold.status with
  | .active => .open
  | .completed | .expired =>
    match db.settlement? (hold.id, .capture) with
    | none => .voided
    | some capture => if (db.settlement? (capture, .refund)).isSome then .refunded else .captured

/-- The entry of a hold row in the book. -/
def entry (db : Db) (hold : Transaction) : Hold :=
  ⟨hold.id, hold.accountID, hold.amountCents, db.stateOf hold⟩

@[simp] theorem entry_amount (db : Db) (hold : Transaction) :
    (db.entry hold).amount = hold.amountCents := rfl

def book (db : Db) : Book := (db.transactions.filter (·.type = .authHold)).map db.entry

variable (db : Db)

theorem settlement?_insert (t : Transaction) (key : UUID × TransactionType) :
    (db.insert t).settlement? key =
      if t.indexKey = some key then some t.id else db.settlement? key := by
  rw [settlement?, referring?_insert]
  split <;> rfl

@[simp] theorem settlement?_setStatus (id : UUID) (status : TransactionStatus)
    (key : UUID × TransactionType) :
    (db.setStatus id status).settlement? key = db.settlement? key := by
  simp [settlement?, referring?_setStatus, Function.comp_def]

@[simp] theorem settlement?_adjust (id : UUID) (balanceDelta availableBalanceDelta : ℤ)
    (key : UUID × TransactionType) :
    (db.adjust id balanceDelta availableBalanceDelta).settlement? key = db.settlement? key := rfl

theorem accounts_adjust (id other : UUID) (balanceDelta availableBalanceDelta : ℤ) :
    (db.adjust id balanceDelta availableBalanceDelta).accounts other =
      (db.accounts other).map fun account =>
        if id = other then account.adjust balanceDelta availableBalanceDelta else account := by
  rcases eq_or_ne other id with rfl | hne
  · simp [accounts_adjust_self]
  · simp [accounts_adjust_of_ne _ _ _ hne, hne.symm]

theorem exists_of_settlement? {db : Db} {key : UUID × TransactionType} {id : UUID}
    (h : db.settlement? key = some id) :
    ∃ t ∈ db.transactions, t.indexKey = some key ∧ t.id = id := by
  obtain ⟨t, hfound, hid⟩ := Option.map_eq_some_iff.mp h
  exact ⟨t, List.mem_of_find?_eq_some hfound, by simpa using List.find?_some hfound, hid⟩

theorem mem_of_transaction? {db : Db} {id : UUID} {t : Transaction}
    (h : db.transaction? id = some t) : t ∈ db.transactions :=
  List.mem_of_find?_eq_some h

end Db

/-! ## Sound tables -/

/-- The type of the rows that rows of a type settle. -/
def TransactionType.settles : TransactionType → TransactionType
  | authHold => authHold
  | capture | void => authHold
  | refund => capture

/-- A row settles another one. -/
structure Settles (t r : Transaction) : Prop where
  reference : t.referenceID = some r.id
  type : r.type = t.type.settles
  account : t.accountID = r.accountID
  amount : t.amountCents = r.amountCents
  currency : t.currency = r.currency

/-- Rows that are consistent with each other. -/
structure Db.Indexed (db : Db) : Prop where
  ids : (db.transactions.map (·.id)).Nodup
  positive : ∀ t ∈ db.transactions, 0 < t.amountCents
  original : ∀ t ∈ db.transactions, t.type = .authHold → t.referenceID = none
  completed : ∀ t ∈ db.transactions, t.type ≠ .authHold → t.status = .completed
  settles : ∀ t ∈ db.transactions, t.type ≠ .authHold → ∃ r ∈ db.transactions, Settles t r
  unique : ∀ t ∈ db.transactions, ∀ key, t.indexKey = some key → db.settlement? key = some t.id

/-- A hold is active while nothing has settled it, and one thing settles it. -/
structure Db.Disposed (db : Db) (hold : Transaction) : Prop where
  active : hold.status = .active ↔
    db.settlement? (hold.id, .capture) = none ∧ db.settlement? (hold.id, .void) = none
  exclusive : db.settlement? (hold.id, .capture) = none ∨ db.settlement? (hold.id, .void) = none

structure Db.Sound (db : Db) : Prop extends db.Indexed where
  disposed : ∀ hold ∈ db.transactions, hold.type = .authHold → db.Disposed hold

section Indexed

variable {db : Db} {t r : Transaction} {id : UUID}

theorem Transaction.indexKey_eq {key : UUID × TransactionType} (h : t.indexKey = some key) :
    t.referenceID = some key.1 ∧ t.type = key.2 ∧ t.type ≠ .authHold := by
  unfold indexKey at h
  cases htype : t.type with
  | authHold => simp [htype] at h
  | capture | void | refund =>
    simp only [htype, Option.map_eq_some_iff] at h
    obtain ⟨reference, hreference, rfl⟩ := h
    exact ⟨hreference, rfl, by decide⟩

theorem Settles.indexKey (h : Settles t r) (htype : t.type ≠ .authHold) :
    t.indexKey = some (r.id, t.type) := by
  unfold Transaction.indexKey
  cases hcase : t.type with
  | authHold => exact absurd hcase htype
  | capture | void | refund => simp [h.reference]

theorem Db.create_eq_ok (h : db.create t = .ok ()) :
    db.transaction? t.id = none ∧ ∀ key, t.indexKey = some key → db.settlement? key = none := by
  have hduplicate := Db.not_duplicate_of_create h
  rw [Db.duplicate, Bool.or_eq_false_iff, Option.isSome_eq_false_iff, Option.isNone_iff_eq_none,
    Option.isSome_eq_false_iff, Option.isNone_iff_eq_none] at hduplicate
  refine ⟨hduplicate.1, fun key hkey => ?_⟩
  have hreferring := hduplicate.2
  rw [hkey, Option.bind_some] at hreferring
  rw [Db.settlement?, hreferring, Option.map_none]

theorem Db.ne_of_transaction?_eq_none (h : db.transaction? id = none) (hr : r ∈ db.transactions) :
    r.id ≠ id := by
  have hnone := List.find?_eq_none.mp h r hr
  simpa using hnone

namespace Db.Indexed

/-- A row is found under its id. -/
theorem transaction?_eq (h : db.Indexed) (hr : r ∈ db.transactions) :
    db.transaction? r.id = some r := by
  have hids := h.ids
  rw [Db.transaction?]
  generalize db.transactions = rows at hr hids
  induction rows with
  | nil => cases hr
  | cons first rows ih =>
    rw [List.map_cons, List.nodup_cons] at hids
    rcases List.mem_cons.mp hr with rfl | hr
    · simp
    · have hne : first.id ≠ r.id := fun heq => hids.1 (heq ▸ List.mem_map_of_mem hr)
      rw [List.find?_cons_of_neg (by simpa using hne)]
      exact ih hr hids.2

/-- Nothing settles a row that does not exist. -/
theorem settlement?_eq_none (h : db.Indexed) (habsent : db.transaction? id = none)
    (type : TransactionType) : db.settlement? (id, type) = none := by
  rw [Db.settlement?, Option.map_eq_none_iff, Db.referring?, List.find?_eq_none]
  intro t ht hkey
  obtain ⟨hreference, -, htype⟩ := Transaction.indexKey_eq (of_decide_eq_true hkey)
  obtain ⟨r, hr, hsettles⟩ := h.settles t ht htype
  rw [hsettles.reference] at hreference
  exact Db.ne_of_transaction?_eq_none habsent hr (Option.some.inj hreference)

/-- Ids are unique. -/
theorem eq_of_id_eq (h : db.Indexed) (ht : t ∈ db.transactions) (hr : r ∈ db.transactions)
    (hid : t.id = r.id) : t = r := by
  have hlookup := h.transaction?_eq ht
  rw [hid, h.transaction?_eq hr] at hlookup
  exact (Option.some.inj hlookup).symm

theorem insert (h : db.Indexed) (created : db.create t = .ok ()) (positive : 0 < t.amountCents)
    (original : t.type = .authHold → t.referenceID = none)
    (completed : t.type ≠ .authHold → t.status = .completed)
    (settles : t.type ≠ .authHold → ∃ r ∈ db.transactions, Settles t r) :
    (db.insert t).Indexed where
  ids := by
    refine List.nodup_cons.mpr ⟨fun hmem => ?_, h.ids⟩
    obtain ⟨r, hr, hid⟩ := List.mem_map.mp hmem
    exact Db.ne_of_transaction?_eq_none (Db.create_eq_ok created).1 hr hid
  positive r hr := by
    rcases List.mem_cons.mp hr with rfl | hr
    · exact positive
    · exact h.positive r hr
  original r hr htype := by
    rcases List.mem_cons.mp hr with rfl | hr
    · exact original htype
    · exact h.original r hr htype
  completed r hr htype := by
    rcases List.mem_cons.mp hr with rfl | hr
    · exact completed htype
    · exact h.completed r hr htype
  settles r hr htype := by
    rcases List.mem_cons.mp hr with rfl | hr
    · obtain ⟨base, hbase, hsettles⟩ := settles htype
      exact ⟨base, List.mem_cons_of_mem _ hbase, hsettles⟩
    · obtain ⟨base, hbase, hsettles⟩ := h.settles r hr htype
      exact ⟨base, List.mem_cons_of_mem _ hbase, hsettles⟩
  unique r hr key hkey := by
    rw [Db.settlement?_insert]
    rcases List.mem_cons.mp hr with rfl | hr
    · rw [if_pos hkey]
    · have hold := h.unique r hr key hkey
      rw [if_neg, hold]
      intro hnew
      rw [(Db.create_eq_ok created).2 key hnew] at hold
      cases hold

theorem complete (h : db.Indexed) (id : UUID) : (db.setStatus id .completed).Indexed where
  ids := by simpa [Db.setStatus, Function.comp_def] using h.ids
  positive r hr := by
    obtain ⟨before, hbefore, rfl⟩ := List.mem_map.mp hr
    simpa using h.positive before hbefore
  original r hr htype := by
    obtain ⟨before, hbefore, rfl⟩ := List.mem_map.mp hr
    simpa using h.original before hbefore (by simpa using htype)
  completed r hr htype := by
    obtain ⟨before, hbefore, rfl⟩ := List.mem_map.mp hr
    unfold Transaction.withStatus
    split
    · rfl
    · exact h.completed before hbefore (by simpa using htype)
  settles r hr htype := by
    obtain ⟨before, hbefore, rfl⟩ := List.mem_map.mp hr
    obtain ⟨base, hbase, hsettles⟩ := h.settles before hbefore (by simpa using htype)
    refine ⟨_, List.mem_map_of_mem hbase, ?_⟩
    exact ⟨by simpa using hsettles.reference, by simpa using hsettles.type,
      by simpa using hsettles.account, by simpa using hsettles.amount,
      by simpa using hsettles.currency⟩
  unique r hr key hkey := by
    obtain ⟨before, hbefore, rfl⟩ := List.mem_map.mp hr
    simpa using h.unique before hbefore key (by simpa using hkey)

theorem adjust (h : db.Indexed) (id : UUID) (balanceDelta availableBalanceDelta : ℤ) :
    (db.adjust id balanceDelta availableBalanceDelta).Indexed :=
  ⟨h.ids, h.positive, h.original, h.completed, h.settles, h.unique⟩

end Db.Indexed

end Indexed

section Sound

variable {db db' : Db} {t hold hold' capture : Transaction} {id : UUID} {createdAt : Time}

theorem refund_ne_authHold : TransactionType.refund ≠ .authHold := by decide

theorem ne_authHold_of_disposes {type : TransactionType} (h : type = .capture ∨ type = .void) :
    type ≠ .authHold := by
  rcases h with rfl | rfl <;> decide

theorem Db.Disposed.congr (h : db.Disposed hold) (hstatus : hold'.status = hold.status)
    (hid : hold'.id = hold.id) (hsettlement : ∀ type, type ≠ .refund →
      db'.settlement? (hold.id, type) = db.settlement? (hold.id, type)) : db'.Disposed hold' where
  active := by
    rw [hstatus, hid, hsettlement .capture (by decide), hsettlement .void (by decide)]
    exact h.active
  exclusive := by
    rw [hid, hsettlement .capture (by decide), hsettlement .void (by decide)]
    exact h.exclusive

namespace Db.Sound

theorem empty (h : db.transactions = []) : db.Sound where
  ids := by simp [h]
  positive := by simp [h]
  original := by simp [h]
  completed := by simp [h]
  settles := by simp [h]
  unique := by simp [h]
  disposed := by simp [h]

theorem adjust (h : db.Sound) (id : UUID) (balanceDelta availableBalanceDelta : ℤ) :
    (db.adjust id balanceDelta availableBalanceDelta).Sound where
  toIndexed := h.toIndexed.adjust id balanceDelta availableBalanceDelta
  disposed hold hmem htype := (h.disposed hold hmem htype).congr rfl rfl fun _ _ => rfl

theorem insert_hold (h : db.Sound) (created : db.create t = .ok ()) (positive : 0 < t.amountCents)
    (type : t.type = .authHold) (original : t.referenceID = none) (active : t.status = .active) :
    (db.insert t).Sound where
  toIndexed := h.toIndexed.insert created positive (fun _ => original)
    (fun hne => absurd type hne) (fun hne => absurd type hne)
  disposed hold hmem htype := by
    have hsettlement : ∀ key, (db.insert t).settlement? key = db.settlement? key := by
      intro key
      rw [Db.settlement?_insert, if_neg]
      intro hkey
      exact (Transaction.indexKey_eq hkey).2.2 type
    rcases List.mem_cons.mp hmem with rfl | hmem
    · -- Nothing refers to the new id.
      have hnone := h.toIndexed.settlement?_eq_none (Db.create_eq_ok created).1
      constructor <;> simp [hsettlement, hnone, active]
    · exact (h.disposed hold hmem htype).congr rfl rfl fun _ _ => hsettlement _

theorem settles_settle {type : TransactionType} (htype : hold.type = type.settles) :
    Settles (hold.settle id type createdAt) hold :=
  ⟨rfl, htype, rfl, rfl, rfl⟩

/-- A capture or a void of an active hold. -/
theorem dispose {type : TransactionType} (h : db.Sound) (hmem : hold ∈ db.transactions)
    (hhold : hold.type = .authHold) (active : hold.status = .active)
    (htype : type = .capture ∨ type = .void)
    (created : db.create (hold.settle id type createdAt) = .ok ()) :
    ((db.insert (hold.settle id type createdAt)).setStatus hold.id .completed).Sound where
  toIndexed := by
    refine Db.Indexed.complete ?_ hold.id
    refine h.toIndexed.insert created (h.positive hold hmem) ?_ (fun _ => rfl) fun _ => ?_
    · exact fun hnew => absurd hnew (ne_authHold_of_disposes htype)
    · exact ⟨hold, hmem, settles_settle (by rcases htype with rfl | rfl <;> exact hhold)⟩
  disposed other hother hothertype := by
    have hkey := hold.indexKey_settle id type createdAt (ne_authHold_of_disposes htype)
    obtain ⟨before, hbefore, rfl⟩ := List.mem_map.mp hother
    rw [Transaction.withStatus_type] at hothertype
    rcases List.mem_cons.mp hbefore with rfl | hbefore
    · rcases htype with rfl | rfl <;> cases hothertype
    · rcases eq_or_ne before.id hold.id with heq | hne
      · -- The hold itself: it was settled by nothing before.
        obtain rfl := h.toIndexed.eq_of_id_eq hbefore hmem heq
        obtain ⟨hcapture, hvoid⟩ := (h.disposed before hmem hhold).active.mp active
        rw [Transaction.withStatus_self]
        rcases htype with rfl | rfl <;>
          constructor <;> simp [Db.settlement?_insert, hkey, hcapture, hvoid]
      · rw [Transaction.withStatus_of_ne _ hne]
        refine (h.disposed before hbefore hothertype).congr rfl rfl fun key _ => ?_
        rw [Db.settlement?_setStatus, Db.settlement?_insert, hkey, if_neg]
        intro heq
        exact hne (congrArg Prod.fst (Option.some.inj heq)).symm

theorem refund (h : db.Sound) (hmem : capture ∈ db.transactions) (htype : capture.type = .capture)
    (created : db.create (capture.settle id .refund createdAt) = .ok ()) :
    (db.insert (capture.settle id .refund createdAt)).Sound where
  toIndexed := h.toIndexed.insert created (h.positive capture hmem)
    (fun hnew => absurd hnew refund_ne_authHold) (fun _ => rfl)
    fun _ => ⟨capture, hmem, settles_settle htype⟩
  disposed other hother hothertype := by
    rcases List.mem_cons.mp hother with rfl | hother
    · cases hothertype
    · refine (h.disposed other hother hothertype).congr rfl rfl fun type hne => ?_
      rw [Db.settlement?_insert, if_neg]
      intro hkey
      exact hne (congrArg Prod.snd (Option.some.inj hkey)).symm

/-- No two rows refer to the same one. -/
theorem eq_of_reference {other : Transaction} (h : db.Sound) (ht : t ∈ db.transactions)
    (hother : other ∈ db.transactions) (href : t.referenceID = some id)
    (href' : other.referenceID = some id) : other = t := by
  have htype : ∀ {row}, row ∈ db.transactions → row.referenceID = some id →
      row.type ≠ .authHold := by
    intro row hrow hrowref hhold
    rw [h.original row hrow hhold] at hrowref
    cases hrowref
  obtain ⟨r, hr, hsettles⟩ := h.settles t ht (htype ht href)
  obtain ⟨r', hr', hsettles'⟩ := h.settles other hother (htype hother href')
  have hid : r.id = r'.id := by
    rw [hsettles.reference] at href
    rw [hsettles'.reference] at href'
    exact Option.some.inj (href.trans href'.symm)
  obtain rfl := h.toIndexed.eq_of_id_eq hr hr' hid
  have hkey := h.unique t ht _ (hsettles.indexKey (htype ht href))
  have hkey' := h.unique other hother _ (hsettles'.indexKey (htype hother href'))
  have hsame : other.type = t.type := by
    have hbase := hsettles.type.symm.trans hsettles'.type
    -- A capture and a void of the same hold exclude each other.
    have hexclusive : r.type = .authHold → ¬ (db.settlement? (r.id, .capture) ≠ none ∧
        db.settlement? (r.id, .void) ≠ none) := fun hhold hboth =>
      (h.disposed r hr hhold).exclusive.elim hboth.1 hboth.2
    have hne := htype ht href
    have hne' := htype hother href'
    have hrtype := hsettles.type
    cases h₁ : t.type <;> cases h₂ : other.type <;>
      simp_all [TransactionType.settles]
  rw [hsame, hkey] at hkey'
  exact (h.toIndexed.eq_of_id_eq ht hother (Option.some.inj hkey')).symm

end Db.Sound

/-- The amount of a granted authorization is positive. -/
theorem pos_of_validateAuthorizationRequest {cardNumber cvv : GoString} {amount : ℤ}
    (h : validateAuthorizationRequest cardNumber cvv amount = .ok ()) : 0 < amount := by
  unfold validateAuthorizationRequest at h
  obtain ⟨-, -, h⟩ := bind_eq_ok.mp h
  obtain ⟨-, -, h⟩ := bind_eq_ok.mp h
  have hamount := mapError_eq_ok.mp h
  rw [validateAmount, rejectIf_eq_ok] at hamount
  exact not_le.mp hamount

/-- Every posting keeps the tables sound. -/
theorem Db.Sound.post {bank : Bank} {request : ServiceRequest} (h : db.Sound)
    (posts : bank.Posts db request t db') : db'.Sound := by
  cases posts with
  | authorize valid found known funds created =>
    have hpos := pos_of_validateAuthorizationRequest valid
    exact (h.insert_hold created hpos rfl rfl rfl).adjust _ _ _
  | capture found type active created =>
    exact (h.dispose (Db.mem_of_transaction? found) type active (.inl rfl) created).adjust _ _ _
  | void found type active uncaptured created =>
    exact (h.dispose (Db.mem_of_transaction? found) type active (.inr rfl) created).adjust _ _ _
  | refund found type completed created =>
    exact (h.refund (Db.mem_of_transaction? found) type created).adjust _ _ _

end Sound

/-! ## Postings are steps of the book -/

section Book

variable {db db' : Db} {t hold hold' capture : Transaction} {id : UUID} {createdAt : Time}

theorem Db.stateOf_congr
    (hcapture : db'.settlement? (hold.id, .capture) = db.settlement? (hold.id, .capture))
    (hrefund : ∀ captureID, db.settlement? (hold.id, .capture) = some captureID →
      db'.settlement? (captureID, .refund) = db.settlement? (captureID, .refund)) :
    db'.stateOf hold = db.stateOf hold := by
  unfold Db.stateOf
  rw [hcapture]
  cases hfound : db.settlement? (hold.id, .capture) with
  | none => rfl
  | some captureID => simp only [hrefund captureID hfound]

theorem Db.entry_congr (h : db'.stateOf hold = db.stateOf hold) :
    db'.entry hold = db.entry hold := by
  rw [Db.entry, Db.entry, h]

/-- The book after one row was changed, up to the rows that are no holds. -/
theorem Db.book_eq_of_rows {first last : List Transaction}
    (rows : db.transactions = first ++ hold :: last)
    (rows' : db'.transactions = t :: (first ++ hold' :: last)) (ht : t.type ≠ .authHold)
    (htype : hold.type = .authHold) (htype' : hold'.type = .authHold)
    (others : ∀ other ∈ first ++ last, other.type = .authHold →
      db'.stateOf other = db.stateOf other) :
    ∃ before after, db.book = before ++ db.entry hold :: after ∧
      db'.book = before ++ db'.entry hold' :: after := by
  have hentries : ∀ part ⊆ first ++ last, (part.filter (·.type = .authHold)).map db'.entry =
      (part.filter (·.type = .authHold)).map db.entry := by
    intro part hpart
    refine List.map_congr_left fun other hother => ?_
    obtain ⟨hmem, hothertype⟩ := List.mem_filter.mp hother
    exact Db.entry_congr (others other (hpart hmem) (of_decide_eq_true hothertype))
  refine ⟨(first.filter (·.type = .authHold)).map db.entry,
    (last.filter (·.type = .authHold)).map db.entry, ?_, ?_⟩
  · simp [Db.book, rows, htype]
  · rw [← hentries first (List.subset_append_left _ _),
      ← hentries last (List.subset_append_right _ _)]
    simp [Db.book, rows', ht, htype']

/-- A hold row with its place, and the other ids. -/
theorem Db.Indexed.split (h : db.Indexed) (hmem : hold ∈ db.transactions) :
    ∃ first last, db.transactions = first ++ hold :: last ∧
      ∀ other ∈ first ++ last, other ∈ db.transactions ∧ other.id ≠ hold.id := by
  obtain ⟨first, last, rows⟩ := List.append_of_mem hmem
  refine ⟨first, last, rows, fun other hother => ⟨?_, fun hid => ?_⟩⟩
  · rw [rows]
    rcases List.mem_append.mp hother with h | h
    · exact List.mem_append_left _ h
    · exact List.mem_append_right _ (List.mem_cons_of_mem _ h)
  · have hids := h.ids
    rw [rows, List.map_append, List.map_cons, List.nodup_middle, List.nodup_cons,
      ← List.map_append, ← hid] at hids
    exact hids.1 (List.mem_map_of_mem hother)

/-- What a posting does to the book and to the accounts. -/
structure Moved (db db' : Db) (account : UUID) (balanceDelta availableBalanceDelta : ℤ) :
    Prop where
  step : Book.Step db.book db'.book
  accounts : ∀ id, db'.accounts id =
    (db.adjust account balanceDelta availableBalanceDelta).accounts id
  spent : ∀ id, Book.total Hold.spent id db'.book =
    Book.total Hold.spent id db.book - if account = id then balanceDelta else 0
  blocked : ∀ id, Book.total Hold.blocked id db'.book =
    Book.total Hold.blocked id db.book - if account = id then availableBalanceDelta else 0

/-- A hold of the book moves. -/
theorem Moved.of_move {before after : Book} {entry : Hold} {state : HoldState}
    {balanceDelta availableBalanceDelta : ℤ} (book : db.book = before ++ entry :: after)
    (book' : db'.book = before ++ { entry with state } :: after)
    (moves : entry.state.Moves state)
    (accounts : ∀ id, db'.accounts id =
      (db.adjust entry.account balanceDelta availableBalanceDelta).accounts id)
    (spent : Hold.spent { entry with state } = entry.spent - balanceDelta)
    (blocked : Hold.blocked { entry with state } = entry.blocked - availableBalanceDelta) :
    Moved db db' entry.account balanceDelta availableBalanceDelta where
  step := by
    rw [book, book']
    exact .move before after entry state moves
  accounts := accounts
  spent id := by
    simp only [book, book', Book.total_append, Book.total_cons, spent]
    split <;> omega
  blocked id := by
    simp only [book, book', Book.total_append, Book.total_cons, blocked]
    split <;> omega

theorem moved_authorize {bank : Bank} {account : Account} {amount : ℤ}
    {expiryBase : Time} (positive : 0 < amount)
    (created : db.create (bank.holdRow account amount id expiryBase createdAt) = .ok ()) :
    Moved db ((db.insert (bank.holdRow account amount id expiryBase createdAt)).adjust
      account.id 0 (-amount)) account.id 0 (-amount) := by
  have hbook : ((db.insert (bank.holdRow account amount id expiryBase createdAt)).adjust
      account.id 0 (-amount)).book = ⟨id, account.id, amount, .open⟩ :: db.book := by
    rfl
  have hfresh : ∀ other ∈ db.book, other.id ≠ id := by
    intro other hother
    obtain ⟨row, hrow, rfl⟩ := List.mem_map.mp hother
    exact Db.ne_of_transaction?_eq_none (Db.create_eq_ok created).1 (List.mem_filter.mp hrow).1
  exact {
    step := by
      rw [hbook]
      exact .place db.book _ hfresh rfl positive
    accounts := fun _ => rfl
    spent := fun other => by simp [hbook, Hold.spent]
    blocked := fun other => by
      simp only [hbook, Book.total_cons, Hold.blocked]
      split <;> omega }

/-- The book after a capture or a void of a hold. -/
theorem book_dispose (id : UUID) (createdAt : Time) {type : TransactionType} (indexed : db.Indexed)
    (hmem : hold ∈ db.transactions) (hhold : hold.type = .authHold)
    (htype : type = .capture ∨ type = .void)
    (hdb' : db' = (db.insert (hold.settle id type createdAt)).setStatus hold.id .completed) :
    ∃ before after, db.book = before ++ db.entry hold :: after ∧
      db'.book = before ++ { db.entry hold with
        state := db'.stateOf { hold with status := .completed } } :: after := by
  obtain ⟨first, last, rows, hothers⟩ := indexed.split hmem
  have hkey := hold.indexKey_settle id type createdAt (ne_authHold_of_disposes htype)
  have hsame : ∀ part ⊆ first ++ last, part.map (·.withStatus hold.id .completed) = part :=
    fun part hpart => (List.map_congr_left fun other hother =>
      Transaction.withStatus_of_ne _ (hothers other (hpart hother)).2).trans (List.map_id part)
  have hrows : db'.transactions =
      (hold.settle id type createdAt).withStatus hold.id .completed ::
        (first ++ { hold with status := .completed } :: last) := by
    rw [hdb', Db.setStatus, Db.insert, rows, List.map_cons, List.map_append, List.map_cons,
      hsame first (List.subset_append_left _ _), hsame last (List.subset_append_right _ _),
      Transaction.withStatus_self]
  refine Db.book_eq_of_rows rows hrows ?_ hhold hhold fun other hother _ => ?_
  · rw [Transaction.withStatus_type]
    exact ne_authHold_of_disposes htype
  · -- The new row refers to another hold, and it is no refund.
    have hne := (hothers other hother).2
    refine Db.stateOf_congr ?_ fun captureID _ => ?_
    · rw [hdb', Db.settlement?_setStatus, Db.settlement?_insert, hkey, if_neg]
      intro heq
      exact hne (congrArg Prod.fst (Option.some.inj heq)).symm
    · rw [hdb', Db.settlement?_setStatus, Db.settlement?_insert, hkey, if_neg]
      intro heq
      have hrefund := congrArg Prod.snd (Option.some.inj heq)
      rcases htype with rfl | rfl <;> cases hrefund

theorem stateOf_of_active (active : hold.status = .active) : db.stateOf hold = .open := by
  simp [Db.stateOf, active]

theorem moved_capture (sound : db.Sound) (hmem : hold ∈ db.transactions)
    (hhold : hold.type = .authHold) (active : hold.status = .active)
    (created : db.create (hold.settle id .capture createdAt) = .ok ()) :
    Moved db (((db.insert (hold.settle id .capture createdAt)).setStatus hold.id
      .completed).adjust hold.accountID (-hold.amountCents) 0)
      hold.accountID (-hold.amountCents) 0 := by
  obtain ⟨before, after, hbook, hbook'⟩ :=
    book_dispose id createdAt sound.toIndexed hmem hhold (.inl rfl) rfl
  have hopen : (db.entry hold).state = .open := stateOf_of_active active
  -- Nothing refers to the new capture.
  have hstate : ((db.insert (hold.settle id .capture createdAt)).setStatus hold.id
      .completed).stateOf { hold with status := .completed } = .captured := by
    have hcapture : (db.insert (hold.settle id .capture createdAt)).settlement?
        (hold.id, .capture) = some id := by
      rw [Db.settlement?_insert, if_pos (hold.indexKey_settle id .capture createdAt (by decide))]
      rfl
    have hrefund : (db.insert (hold.settle id .capture createdAt)).settlement?
        (id, .refund) = none := by
      rw [Db.settlement?_insert, if_neg (by simp [Transaction.settle, Transaction.indexKey])]
      exact sound.toIndexed.settlement?_eq_none (Db.create_eq_ok created).1 .refund
    simp [Db.stateOf, hcapture, hrefund]
  rw [hstate] at hbook'
  refine Moved.of_move hbook hbook' (by rw [hopen]; exact .capture) (fun _ => rfl) ?_ ?_
  · simp [Hold.spent, hopen]
  · simp [Hold.blocked, hopen]

theorem moved_void (sound : db.Sound) (hmem : hold ∈ db.transactions)
    (hhold : hold.type = .authHold) (active : hold.status = .active) :
    Moved db (((db.insert (hold.settle id .void createdAt)).setStatus hold.id
      .completed).adjust hold.accountID 0 hold.amountCents)
      hold.accountID 0 hold.amountCents := by
  obtain ⟨before, after, hbook, hbook'⟩ :=
    book_dispose id createdAt sound.toIndexed hmem hhold (.inr rfl) rfl
  have hopen : (db.entry hold).state = .open := stateOf_of_active active
  have hstate : ((db.insert (hold.settle id .void createdAt)).setStatus hold.id
      .completed).stateOf { hold with status := .completed } = .voided := by
    have hcapture : (db.insert (hold.settle id .void createdAt)).settlement?
        (hold.id, .capture) = none := by
      rw [Db.settlement?_insert, if_neg (by simp [Transaction.settle, Transaction.indexKey])]
      exact ((sound.disposed hold hmem hhold).active.mp active).1
    simp [Db.stateOf, hcapture]
  rw [hstate] at hbook'
  refine Moved.of_move hbook hbook' (by rw [hopen]; exact .void) (fun _ => rfl) ?_ ?_
  · simp [Hold.spent, hopen]
  · simp [Hold.blocked, hopen]

theorem moved_refund (sound : db.Sound) (hmem : capture ∈ db.transactions)
    (htype : capture.type = .capture)
    (created : db.create (capture.settle id .refund createdAt) = .ok ()) :
    Moved db ((db.insert (capture.settle id .refund createdAt)).adjust
      capture.accountID capture.amountCents capture.amountCents)
      capture.accountID capture.amountCents capture.amountCents := by
  have hne : capture.type ≠ .authHold := by rw [htype]; decide
  -- The hold that was captured.
  obtain ⟨hold, hhold, hsettles⟩ := sound.settles capture hmem hne
  have hholdtype : hold.type = .authHold := by
    rw [hsettles.type, htype]
    rfl
  have hcapture : db.settlement? (hold.id, .capture) = some capture.id := by
    have hkey := hsettles.indexKey hne
    rw [htype] at hkey
    exact sound.unique capture hmem _ hkey
  have hcompleted : hold.status ≠ .active := by
    intro active
    rw [((sound.disposed hold hhold hholdtype).active.mp active).1] at hcapture
    cases hcapture
  have hstate : ∀ {db : Db}, db.settlement? (hold.id, .capture) = some capture.id →
      db.stateOf hold = if (db.settlement? (capture.id, .refund)).isSome then .refunded
        else .captured := by
    intro db h
    unfold Db.stateOf
    split
    · next active => exact absurd active hcompleted
    · rw [h]
    · rw [h]
  have hbefore : db.settlement? (capture.id, .refund) = none :=
    (Db.create_eq_ok created).2 (capture.id, .refund) rfl
  obtain ⟨first, last, rows, hothers⟩ := sound.toIndexed.split hhold
  have hkey : capture.indexKey = some (hold.id, .capture) := by
    rw [hsettles.indexKey hne, htype]
  have hrows : (db.insert (capture.settle id .refund createdAt)).transactions =
      capture.settle id .refund createdAt :: (first ++ hold :: last) := by rw [Db.insert, rows]
  obtain ⟨before, after, hbook, hbook'⟩ := Db.book_eq_of_rows rows hrows refund_ne_authHold
    hholdtype hholdtype fun other hother _ => by
      refine Db.stateOf_congr ?_ fun captureID hcaptureID => ?_
      · rw [Db.settlement?_insert, if_neg]
        intro heq
        cases congrArg Prod.snd (Option.some.inj heq)
      · -- The capture of another hold is another one.
        rw [Db.settlement?_insert, if_neg]
        intro heq
        obtain ⟨row, hrow, hrowkey, hrowid⟩ := Db.exists_of_settlement? hcaptureID
        have hid : capture.id = captureID := congrArg Prod.fst (Option.some.inj heq)
        obtain rfl := sound.toIndexed.eq_of_id_eq hrow hmem (hrowid.trans hid.symm)
        rw [hkey] at hrowkey
        exact (hothers other hother).2 (congrArg Prod.fst (Option.some.inj hrowkey)).symm
  have hcaptured : (db.entry hold).state = .captured := by
    change db.stateOf hold = .captured
    rw [hstate hcapture, hbefore]
    rfl
  have hrefunded : (db.insert (capture.settle id .refund createdAt)).stateOf hold = .refunded := by
    rw [hstate, Db.settlement?_insert,
      if_pos (capture.indexKey_settle id .refund createdAt refund_ne_authHold)]
    · rfl
    · rw [Db.settlement?_insert, if_neg, hcapture]
      intro heq
      cases congrArg Prod.snd (Option.some.inj heq)
  rw [Db.entry, hrefunded] at hbook'
  rw [hsettles.account, hsettles.amount]
  refine Moved.of_move hbook hbook' (by rw [hcaptured]; exact .refund) (fun _ => rfl) ?_ ?_
  · simp [Hold.spent, hcaptured]
  · simp [Hold.blocked, hcaptured]

theorem Bank.Posts.moved {bank : Bank} {request : ServiceRequest} (sound : db.Sound)
    (posts : bank.Posts db request t db') :
    ∃ account balanceDelta availableBalanceDelta,
      Moved db db' account balanceDelta availableBalanceDelta := by
  cases posts with
  | authorize valid found known funds created =>
    exact ⟨_, _, _, moved_authorize (pos_of_validateAuthorizationRequest valid) created⟩
  | capture found type active created =>
    exact ⟨_, _, _, moved_capture sound (Db.mem_of_transaction? found) type active created⟩
  | void found type active uncaptured created =>
    exact ⟨_, _, _, moved_void sound (Db.mem_of_transaction? found) type active⟩
  | refund found type completed created =>
    exact ⟨_, _, _, moved_refund sound (Db.mem_of_transaction? found) type created⟩

end Book

end PaymentGateway.MockBank
