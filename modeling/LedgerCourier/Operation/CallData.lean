import LedgerCourier.Bytes.Compact
import LedgerCourier.Operation.Reader
import LedgerCourier.Table

/-!
Operations as call data.

Call data begins with two bytes, the runtime's numbers of the pallet and of the call; the
arguments follow without any separator. Amounts take sixteen bytes, accounts their
thirty-two, byte strings stand behind their length, balances are compact. An operation
inside another one is written out in full, and a batch counts the operations it holds in
front of them. All of it is written to one output, up to the first call without numbers.
The numbers come from a table, so the same operation and table always give the same bytes.
-/

namespace LedgerCourier

set_option autoImplicit false

abbrev CallIndices := Table (String × String) (UInt8 × UInt8)

structure Pallet where
  name : String
  index : UInt8
  calls : List (String × UInt8)

namespace CallIndices

/-- The numbers that a runtime gives to the known calls. Calls that it does not expose are
left out. -/
def ofRuntime (pallets : List Pallet) (names : PalletNames) : CallIndices :=
  names.knownCalls.foldl (fun indices known =>
    match pallets.find? fun pallet => pallet.name == known.1 with
    | none => indices
    | some pallet =>
        match pallet.calls.find? fun call => call.1 == known.2 with
        | none => indices
        | some call => Table.insert indices known (pallet.index, call.2)) Table.empty

end CallIndices

structure EncodedCall where
  tag : String
  data : Bytes
  components : List String
deriving DecidableEq

structure CallEncoder where
  names : PalletNames
  indices : CallIndices

/-- The output after something has been written to it, and whether the writing came to its end. -/
structure Writing where
  output : Bytes
  ended : Except EncodeError Unit

namespace CallEncoder

def header (encoder : CallEncoder) (kind : Operation.Kind) : Except EncodeError Bytes :=
  let (pallet, call) := encoder.names.callOf kind
  match encoder.indices.get? (pallet, call) with
  | some (palletIndex, callIndex) => .ok [palletIndex, callIndex]
  | none => .error (.unknownCall pallet call)

def amountBytes (amount : Amount) : Bytes := littleEndian 16 amount.units

def batchCount (calls : List Operation) : Bytes := Compact.encode (calls.length % UInt32.size)

mutual

/-- Writes an operation behind the output so far. At a call without numbers the writing stops, and
what has been written until then stays. -/
def write (encoder : CallEncoder) (operation : Operation) (output : Bytes) : Writing :=
  match encoder.header operation.kind with
  | .error error => ⟨output, .error error⟩
  | .ok header =>
      let output := output ++ header
      match operation with
      | .lock amount | .release amount => ⟨output ++ amountBytes amount, .ok ()⟩
      | .setOwner address | .setOperator address => ⟨output ++ address.bytes, .ok ()⟩
      | .setTransferKey data | .setTreeKey data | .transact data =>
          ⟨output ++ Compact.encodeBytes data, .ok ()⟩
      | .setBalance who free reserved =>
          let output := output ++ (0 :: who.bytes)
          ⟨output ++ Compact.encode free.units ++ Compact.encode reserved.units, .ok ()⟩
      | .asRoot inner => encoder.write inner output
      | .batch calls => encoder.writeEach calls (output ++ batchCount calls)

def writeEach (encoder : CallEncoder) (calls : List Operation) (output : Bytes) : Writing :=
  match calls with
  | [] => ⟨output, .ok ()⟩
  | call :: rest =>
      match encoder.write call output with
      | ⟨output, .error error⟩ => ⟨output, .error error⟩
      | ⟨output, .ok ()⟩ => encoder.writeEach rest output

end

def encodeOperation (encoder : CallEncoder) (operation : Operation) :
    Except EncodeError EncodedCall :=
  match encoder.write operation [] with
  | ⟨_, .error error⟩ => .error error
  | ⟨data, .ok ()⟩ =>
      .ok {
        tag := operation.tag
        data := data
        components := match operation with
          | .batch calls => calls.map Operation.tag
          | _ => [] }

def encode (encoder : CallEncoder) (tag : String) (args : Json) :
    Except EncodeError EncodedCall :=
  match Operation.ofTag tag args with
  | .error error => .error error
  | .ok operation => encoder.encodeOperation operation

end CallEncoder

namespace EncodeError

def hexMessage : Hex.Flaw → String
  | .oddLength => "Odd number of digits"
  | .wrongLength => "Invalid string length"
  | .badDigit byte offset =>
      "Invalid character " ++ Quoted.char (Char.ofNat byte.toNat) ++ " at position " ++
        toString offset

def message : EncodeError → String
  | .unknownOperation tag => "Unknown operation '" ++ tag ++ "'"
  | .invalidArguments tag flaw => "Invalid arguments for '" ++ tag ++ "': " ++ flaw.message
  | .invalidHex field flaw => "Field '" ++ field ++ "' is not valid hex: " ++ hexMessage flaw
  | .invalidAccount text => "'" ++ text ++ "' is not a valid account id"
  | .emptyBatch => "Batch must contain at least one call"
  | .unknownCall pallet call =>
      "Call " ++ pallet ++ "." ++ call ++ " is not known to the runtime"

end EncodeError

end LedgerCourier
