import UsdpIndexer.Library.Text
import UsdpIndexer.Protocol.Registry

/-!
# Decoding logs

`indexer/decoder.ts`: which contract a log belongs to is decided by the chain
and the lower-cased address, and the arguments are decoded by the ABI of that
contract.  The ABI decoder itself and the event selectors are the `viem`
package, a parameter of everything below.

What matters downstream is that decoding is a function of the log: whichever
scope fetched it, it decodes alike.
-/

namespace UsdpIndexer

open Text

/-- A decoded argument, as the ABI decoder returns it. -/
inductive AbiValue
  | bigint (value : ℤ)
  | number (value : ℤ)
  | text (value : String)
  | bool (value : Bool)
  | array (items : List AbiValue)
  | object (fields : List (String × AbiValue))

/-- A value of a `jsonb` column.  `decimal n` is the string that `toString`
makes of the big integer `n`; `BigInt` reads it back as `n`. -/
inductive Json
  | decimal (value : ℤ)
  | number (value : ℤ)
  | text (value : String)
  | bool (value : Bool)
  | array (items : List Json)
  | object (fields : List (String × Json))

mutual

/-- Replace big integers by their decimal strings, at every depth. -/
def jsonValue : AbiValue → Json
  | .bigint value => .decimal value
  | .number value => .number value
  | .text value => .text value
  | .bool value => .bool value
  | .array items => .array (jsonItems items)
  | .object fields => .object (jsonFields fields)

/-- The items of a list. -/
def jsonItems : List AbiValue → List Json
  | [] => []
  | item :: items => jsonValue item :: jsonItems items

/-- The fields of an object. -/
def jsonFields : List (String × AbiValue) → List (String × Json)
  | [] => []
  | (key, item) :: fields => (key, jsonValue item) :: jsonFields fields

end

/-- `payload -> key`. -/
def Json.field (key : String) : Json → Option Json
  | .object fields => fields.lookup key
  | _ => none

/-- The three event tables of `protocol/abis.ts`. -/
inductive Abi
  | erc20Abi
  | savingsAbi
  | parallelizerAbi
deriving DecidableEq, Repr

/-- An event the ABI decoder recognised: its name and, unless it has none, its
arguments. -/
structure DecodedEventLog where
  eventName : String
  args : Option AbiValue

/-- The two functions of the `viem` package that decoding rests on.
`decodeEventLog` is `none` where the package throws. -/
structure Viem where
  decodeEventLog : Abi → (data : String) → (topics : List String) → Option DecodedEventLog
  toEventSelector : (signature : String) → String

/-- How the logs of a contract are decoded. -/
structure DecoderDefinition where
  role : String
  version : String
  abi : Abi
deriving DecidableEq, Repr

/-- The decoder table, in the order the source fills its map. -/
def decoders : List ((ℕ × String) × DecoderDefinition) :=
  savingsChainAdapters.flatMap (fun adapter =>
    [((adapter.chainId, toLowerCase adapter.usdp.address),
        ⟨"usdp-token", "usdp-token-v1", .erc20Abi⟩),
      ((adapter.chainId, toLowerCase adapter.susdp.address),
        ⟨"susdp-savings", "susdp-savings-v1", .savingsAbi⟩)])
  ++ [((HYPEREVM_CHAIN_ID, toLowerCase hyperevmParallelizerAddress),
        ⟨"usdp-parallelizer", "parallelizer-v1", .parallelizerAbi⟩)]

/-- The decoder of a contract: the last entry under its key, as in a map that
is filled entry by entry. -/
def findDecoder (chainId : ℕ) (address : String) : Option DecoderDefinition :=
  decoders.reverse.lookup (chainId, toLowerCase address)

/-- What a log is decoded to. -/
structure DecodedProtocolEvent where
  contractRole : String
  eventName : String
  payload : Json
  decoderVersion : String

/-- The version of the decoder of a contract; one that is not known has its own. -/
def decoderVersionForAddress (chainId : ℕ) (address : String) : String :=
  ((findDecoder chainId address).map (·.version)).getD "unknown-v1"

/-- The signatures behind `protocolEventTopics`. -/
def protocolEventSignatures : List String :=
  ["Transfer(address,address,uint256)", "Deposit(address,address,uint256,uint256)",
    "Withdraw(address,address,address,uint256,uint256)", "Accrued(uint256)",
    "RateUpdated(uint256)", "MaxRateUpdated(uint256)", "ToggledPause(uint128)",
    "Swap(address,address,uint256,uint256,address,address)",
    "Redeemed(uint256,address[],uint256[],address[],address,address)"]

/-- A topic is that of an event of the protocol. -/
def isKnownProtocolEventTopic (viem : Viem) (topic : Option String) : Bool :=
  match topic with
  | none => false
  | some topic => topic ≠ "" && toLowerCase topic ∈
      protocolEventSignatures.map fun signature => toLowerCase (viem.toEventSelector signature)

/-- Decode one log, or say that it is none of the protocol's. -/
def decodeProtocolLog (viem : Viem) (chainId : ℕ) (address data : String)
    (topics : List String) : Option DecodedProtocolEvent :=
  match findDecoder chainId address, topics.head? with
  | some decoder, some topic =>
      -- an empty topic is falsy
      if topic = "" then none
      else
        (viem.decodeEventLog decoder.abi data topics).map fun decoded =>
          { contractRole := decoder.role
            eventName := decoded.eventName
            payload := jsonValue (decoded.args.getD (.object []))
            decoderVersion := decoder.version }
  | _, _ => none

end UsdpIndexer
