/-
# Payment envelopes

How a payment result is rendered for a client, `newPaymentEnvelope` and
`newPaymentsEnvelope`, with the RFC 3339 texts of its instants.
-/

import PaymentGateway.App.Claims
import PaymentGateway.App.Instants

namespace PaymentGateway

/-- `paymentPayload`. A field that is left out when empty is empty here. -/
structure PaymentPayload where
  id : GoString
  orderID : GoString
  customerID : GoString
  amountCents : ℤ
  currency : GoString
  status : GoString
  declineReason : GoString
  authorizationExpiresAt : GoString
  createdAt : GoString
  updatedAt : GoString
  deriving DecidableEq, Repr

/-- `newPaymentEnvelope`, up to its one field. -/
def newPaymentEnvelope (payment : PaymentResult) : PaymentPayload where
  id := payment.id
  orderID := payment.orderID
  customerID := payment.customerID
  amountCents := payment.amountCents
  currency := payment.currency
  status := payment.status
  declineReason := payment.declineReason
  authorizationExpiresAt :=
    if payment.authorizationExpiresAt = 0 then []
    else formatRFC3339Nano payment.authorizationExpiresAt
  createdAt := formatRFC3339Nano payment.createdAt
  updatedAt := formatRFC3339Nano payment.updatedAt

/-- `newPaymentsEnvelope`, up to its one field. -/
def newPaymentsEnvelope (payments : List PaymentResult) : List PaymentPayload :=
  payments.map newPaymentEnvelope

end PaymentGateway
