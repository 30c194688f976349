import CallLog.Schema

/-!
# Schemas of validated records

The checks that make invoices and receipts from input data, and the plain data that they are turned
into. The record that an invoice follows up is itself an invoice.
-/

namespace CallLog

namespace Check

open Checked

mutual

/-- An invoice that may be followed up by another one. -/
def invoice : Check Invoice
  | .dict entries => invoiceEntries entries
  | .model m => valid m
  | _ => problem (.notRecord "Invoice")

/-- The entries of an invoice. -/
def invoiceEntries (entries : List (Value × Value)) : Checked Invoice :=
  (fun number total tags parent => Invoice.mk number total tags parent none)
    <$> required entries "number" string
    <*> defaulted entries "total" 0 integer
    <*> defaulted entries "tags" [] (sequenceOf string)
    <*> parentEntry entries

/-- The entry for the record that an invoice follows up. -/
def parentEntry : List (Value × Value) → Checked (Option Invoice)
  | [] => valid none
  | (.str "parent", .none) :: _ => valid none
  | (.str "parent", v) :: _ => within (.field "parent") (map some (invoice v))
  | _ :: rest => parentEntry rest

end

/-- The entries of a receipt. -/
def receiptEntries (entries : List (Value × Value)) : Checked Invoice :=
  (fun number total tags parent paid => Invoice.mk number total tags parent (some paid))
    <$> required entries "number" string
    <*> defaulted entries "total" 0 integer
    <*> defaulted entries "tags" [] (sequenceOf string)
    <*> parentEntry entries
    <*> defaulted entries "paid" false boolean

end Check

namespace Invoice

/-- The plain data of a record, its fields in order. -/
def dump : Invoice → Value
  | mk number total tags parent paid =>
    .dict ([(.str "number", .str number), (.str "total", .int total),
      (.str "tags", .list (tags.map .str)), (.str "parent", dumpParent parent)] ++
      (paid.map fun b => (Value.str "paid", Value.bool b)).toList)
where
  /-- The plain data of the record that an invoice follows up. -/
  dumpParent : Option Invoice → Value
    | none => .none
    | some parent => parent.dump

end Invoice

end CallLog
