/-
# Queries

`GetPayment` and `SearchPayments`, with the store methods they call. Both load rows
through `LoadPayment`; the first takes the id from the query, the second from the row.

A search goes through the rows of the table. The table is a function, and the
history of the written rows knows the ids it is defined on.
-/

import PaymentGateway.App.Commands
import PaymentGateway.Store.Methods

namespace PaymentGateway

open Lib

/-- `GetPaymentQuery`. -/
structure GetPaymentQuery where
  paymentID : GoString
  paymentID_valid : validatePaymentID paymentID = .ok ()

/-- `SearchPaymentsQuery`. An empty order or customer and no status do not restrict the
search. -/
structure SearchPaymentsQuery where
  orderID : GoString
  customerID : GoString
  status : Option PaymentStatus
  restricted : orderID ≠ [] ∨ customerID ≠ []

/-- `NewGetPaymentQuery`. -/
def newGetPaymentQuery (paymentID : GoString) : Except GoError GetPaymentQuery := do
  let ⟨id, hid⟩ ← (parsePaymentIDInput paymentID).mapError ensurePaymentError
  pure ⟨id, hid⟩

/-- `NewSearchPaymentsQuery`. -/
def newSearchPaymentsQuery (orderID customerID status : GoString) :
    Except GoError SearchPaymentsQuery := do
  let ⟨hrestricted⟩ ← ensure (trimSpace orderID ≠ [] ∨ trimSpace customerID ≠ [])
    (newInvalidPaymentInputError (ascii "order id or customer id is required") .none)
  rejectIf (trimSpace status ≠ [] ∧ PaymentStatus.ofText? (trimSpace status) = none)
    (newInvalidPaymentInputError (ascii "payment status is invalid") .none)
  pure ⟨trimSpace orderID, trimSpace customerID, PaymentStatus.ofText? (trimSpace status),
    hrestricted⟩

/-- The WHERE clause of the search. -/
def SearchPaymentsQuery.selects (query : SearchPaymentsQuery) (row : PaymentRow) : Bool :=
  (query.orderID = [] || row.orderID = query.orderID) &&
  (query.customerID = [] || row.customerID = query.customerID) &&
  query.status.all fun status => row.status = status.text

/-- The ORDER BY clause of the search: the newest payment first, and of payments that were
created at the same time the one with the greater id. -/
def PaymentRow.before (row other : PaymentRow) : Bool :=
  other.createdAt < row.createdAt || row.createdAt = other.createdAt && other.id ≤ row.id

namespace Db

/-- The rows of the payments table. -/
def paymentRows (db : Db) : List PaymentRow :=
  (db.history.map Version.id).dedup.filterMap db.payments

/-- `FindByID`. -/
def findByID (db : Db) (id : GoString) : Except GoError Payment := db.findPaymentByID id

/-- `Search`. -/
def search (db : Db) (query : SearchPaymentsQuery) : Except GoError (List Payment) :=
  (((db.paymentRows.filter query.selects).mergeSort PaymentRow.before).take 100).mapM fun row =>
    (scanPayment row).mapError fun err => newInternalPaymentError (.domain err)

/-- `GetPayment`. -/
def getPayment (db : Db) (id : GoString) : Except GoError PaymentResult := do
  let payment ← (db.findByID id).mapError ensurePaymentError
  pure (newPaymentResult payment)

/-- `SearchPayments`. -/
def searchPayments (db : Db) (query : SearchPaymentsQuery) :
    Except GoError (List PaymentResult) := do
  let payments ← (db.search query).mapError ensurePaymentError
  pure (payments.map newPaymentResult)

variable {db : Db}

theorem getPayment_eq_ok {id : GoString} {result : PaymentResult} :
    db.getPayment id = .ok result ↔
      ∃ payment, db.findPaymentByID id = .ok payment ∧ newPaymentResult payment = result := by
  simp only [getPayment, findByID, bind_eq_ok, mapError_eq_ok, pure_eq_ok_iff]

/-- Every entry of a search is read from a row of the table. -/
theorem exists_row_of_searchPayments {query : SearchPaymentsQuery} {results : List PaymentResult}
    {entry : PaymentResult} (h : db.searchPayments query = .ok results) (hentry : entry ∈ results) :
    ∃ id row payment, db.payments id = some row ∧ scanPayment row = .ok payment ∧
      newPaymentResult payment = entry := by
  obtain ⟨payments, hsearch, hresults⟩ := bind_eq_ok.mp h
  obtain rfl := pure_eq_ok_iff.mp hresults
  obtain ⟨payment, hpayment, rfl⟩ := List.mem_map.mp hentry
  obtain ⟨row, hrow, hscan⟩ := mem_of_mapM_eq_ok (mapError_eq_ok.mp hsearch) hpayment
  have hselected := List.mem_mergeSort.mp (List.mem_of_mem_take hrow)
  obtain ⟨id, -, hfound⟩ := List.mem_filterMap.mp (List.mem_filter.mp hselected).1
  exact ⟨id, row, payment, hfound, mapError_eq_ok.mp hscan, rfl⟩

end Db

end PaymentGateway
