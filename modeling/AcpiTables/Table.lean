import AcpiTables.Checksum
import AcpiTables.InterruptController
import AcpiTables.ProcessorTopology
import AcpiTables.Text.Escaped

/-!
# Whole tables

A table is decoded from a buffer that holds at least a header.  The declared length
says where the table ends: bytes behind it are ignored, and a buffer that ends before it
is reported and decoded as far as it goes.  Then the checksum is verified, and the
signature selects the decoder; of a table without a decoder only the header is shown.
-/

namespace AcpiTables

set_option autoImplicit false

namespace Table

open Decoder

/-- A signature together with the decoder of its tables. -/
structure Entry where
  /-- The four bytes of the signature. -/
  signature : Bytes
  /-- Decodes a table that ends where its header says. -/
  decode : Bytes → Decoder Unit

/-- Every table that has a decoder. -/
def entries : List Entry :=
  [ ⟨InterruptController.signature, InterruptController.decode⟩,
    ⟨ProcessorTopology.signature, ProcessorTopology.decode⟩ ]

/-- The decoder registered for a signature. -/
def find? (signature : Bytes) : Option (Bytes → Decoder Unit) :=
  (entries.find? fun entry => entry.signature == signature).map Entry.decode

/-- What may be wrong with a buffer that should hold a table. -/
inductive Fault where
  /-- The buffer cannot hold a header. -/
  | shortBuffer (length : Nat)
  /-- The declared length is less than that of a header. -/
  | shortTable (declared : Nat)
  /-- The buffer ends before the table. -/
  | overlongTable (declared length : Nat)
  deriving DecidableEq, Repr

def Fault.message : Fault → String
  | .shortBuffer length =>
      s!"Buffer too short to hold an ACPI table header. Length = {length}."
  | .shortTable declared =>
      s!"Invalid table length. Length = {declared}. Minimum = " ++ toString Header.size ++ "."
  | .overlongTable declared length =>
      s!"Table length exceeds the buffer. Length = {declared}. BufferLength = {length}."

/-- Decodes a table by its signature, or shows its header if there is no decoder for it. -/
def decodeContent (signature table : Bytes) : Decoder Unit :=
  match find? signature with
  | some decoder => decoder table
  | none => do
      let _ ← Header.trace table
      print ("\nParser not implemented for " ++ escapeBytes signature ++ " table.\n")

/-- The bytes of a table whose length is declared, reporting a buffer that ends before it. -/
def clamp (data : Bytes) (declared : Nat) : Decoder Bytes :=
  if declared ≤ data.length then return data.take declared
  else do
    error (Fault.message (.overlongTable declared data.length))
    return data

/-- Decodes the table in a buffer and gives its signature, unless there is no header. -/
def decode (data : Bytes) : Decoder (Option Bytes) :=
  if data.length < Header.size then do
    error (Fault.message (.shortBuffer data.length))
    return none
  else do
    let (_, header) ← Header.read data
    match header.signature, header.length, header.revision with
    | some signature, some declared, some _ =>
        if declared < Header.size then
          error (Fault.message (.shortTable declared))
        else
          let table ← clamp data declared
          let _ ← Checksum.verify true table
          decodeContent signature table
        return some signature
    | _, _, _ => return none

end Table

end AcpiTables
