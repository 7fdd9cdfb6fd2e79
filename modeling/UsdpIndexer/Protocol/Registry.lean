import Mathlib.Data.List.Basic
import Mathlib.Data.Int.Notation

/-!
# The deployments

`protocol/assets.ts`, `protocol/savings-chains.ts` and `protocol/usdp-chains.ts`: the
two assets, the five chains on which both are deployed, the nineteen more on which only
USDp is, and the adapter records that the indexer and the analytics are handed for a
chain.

Addresses are in lower case here.  The source stores their checksummed form and
lower-cases it again in every comparison.
-/

namespace UsdpIndexer

/-- The two assets of the protocol. -/
inductive ParallelAssetId
  | usdp
  | susdp
deriving DecidableEq, Repr

/-- A deployment of one asset on one chain. -/
structure ParallelChainDeployment where
  assetId : ParallelAssetId
  chainId : ℕ
  chainSlug : String
  chainName : String
  address : String
  deploymentBlock : Option ℤ
deriving DecidableEq, Repr

/-- How a chain's finalized head is found. -/
inductive Finality
  | rpcFinalized
  | confirmationLag
deriving DecidableEq, Repr

/-- A chain with a vault, and how its finality is read. -/
structure SavingsChainAdapter where
  chainId : ℕ
  chainSlug : String
  chainName : String
  finality : Finality
  usdp : ParallelChainDeployment
  susdp : ParallelChainDeployment
  manifestVersion : String
deriving DecidableEq, Repr

/-- The id of HyperEVM. -/
def HYPEREVM_CHAIN_ID : ℕ := 999

/-- Where minted tokens come from and burned ones go. -/
def ZERO_ADDRESS : String := "0x0000000000000000000000000000000000000000"

/-- The rows of `usdpDeployments` and `susdpDeployments` in the savings tier. -/
def savingsDeployments : List (ParallelChainDeployment × ParallelChainDeployment) :=
  [ (⟨.usdp, 1, "ethereum", "Ethereum",
        "0x9b3a8f7cec208e247d97dee13313690977e24459", some 22639007⟩,
      ⟨.susdp, 1, "ethereum", "Ethereum",
        "0x0d45b129dc868963025db79a9074ea9c9e32cae4", some 22816779⟩),
    (⟨.usdp, 8453, "base", "Base",
        "0x76a9a0062ec6712b99b4f63bd2b4270185759dd5", some 31200853⟩,
      ⟨.susdp, 8453, "base", "Base",
        "0x472ed57b376fe400259fb28e5c46eb53f0e3e7e7", some 32247463⟩),
    (⟨.usdp, 146, "sonic", "Sonic",
        "0x08417cdb7f52a5021bb4eb6e0deaf3f295c3f182", some 32199398⟩,
      ⟨.susdp, 146, "sonic", "Sonic",
        "0xe8a3da6f5ed1cf04c58ac7f6a7383641e877517b", some 36579532⟩),
    (⟨.usdp, 999, "hyperevm", "HyperEVM",
        "0xbe65f0f410a72bec163dc65d46c83699e957d588", some 5035286⟩,
      ⟨.susdp, 999, "hyperevm", "HyperEVM",
        "0x9b3a8f7cec208e247d97dee13313690977e24459", some 5119222⟩),
    (⟨.usdp, 43114, "avalanche", "Avalanche",
        "0x9ee1963f05553ef838604dd39403be21cef26aa4", some 63383232⟩,
      ⟨.susdp, 43114, "avalanche", "Avalanche",
        "0x9d92c21205383651610f90722131655a5b8ed3e0", some 68411905⟩) ]

/-- The rows of `usdpDeployments` in the distribution tier. -/
def distributionDeployments : List ParallelChainDeployment :=
  [ ⟨.usdp, 137, "polygon", "Polygon", "0x1250304f66404cd153fa39388ddcdaec7e0f1707", none⟩,
    ⟨.usdp, 42161, "arbitrum", "Arbitrum", "0x76a9a0062ec6712b99b4f63bd2b4270185759dd5", none⟩,
    ⟨.usdp, 10, "optimism", "Optimism", "0x90337e484b1cb02132fc150d3afa262147348545", none⟩,
    ⟨.usdp, 1329, "sei", "Sei", "0x048c4e07d170eedee8772ca76aee1c4e2d133d5c", none⟩,
    ⟨.usdp, 56, "bsc", "BNB Smart Chain", "0x048c4e07d170eedee8772ca76aee1c4e2d133d5c", none⟩,
    ⟨.usdp, 80094, "berachain", "Berachain", "0x9ee1963f05553ef838604dd39403be21cef26aa4", none⟩,
    ⟨.usdp, 534352, "scroll", "Scroll", "0x9ee1963f05553ef838604dd39403be21cef26aa4", none⟩,
    ⟨.usdp, 100, "gnosis", "Gnosis", "0x9ee1963f05553ef838604dd39403be21cef26aa4", none⟩,
    ⟨.usdp, 130, "unichain", "Unichain", "0x9ee1963f05553ef838604dd39403be21cef26aa4", none⟩,
    ⟨.usdp, 57073, "ink", "Ink", "0x9ee1963f05553ef838604dd39403be21cef26aa4", none⟩,
    ⟨.usdp, 239, "tac", "TAC", "0x4def531c3060686948f00ecc7504f2e0b71eda14", none⟩,
    ⟨.usdp, 59144, "linea", "Linea", "0x8fcf9118fdd359f6277cdd143c2da206e64140f3", none⟩,
    ⟨.usdp, 196, "x-layer", "X Layer", "0x8fcf9118fdd359f6277cdd143c2da206e64140f3", none⟩,
    ⟨.usdp, 98866, "plume", "Plume", "0x8fcf9118fdd359f6277cdd143c2da206e64140f3", none⟩,
    ⟨.usdp, 9745, "plasma", "Plasma", "0xc2f8b5d893217462ae9c9879c9285a5a3aabcb8f", none⟩,
    ⟨.usdp, 747474, "katana", "Katana", "0x8fcf9118fdd359f6277cdd143c2da206e64140f3", none⟩,
    ⟨.usdp, 252, "fraxtal", "Fraxtal", "0x8fcf9118fdd359f6277cdd143c2da206e64140f3", none⟩,
    ⟨.usdp, 480, "world-chain", "World Chain", "0x8fcf9118fdd359f6277cdd143c2da206e64140f3", none⟩,
    ⟨.usdp, 43111, "hemi", "Hemi", "0x8fcf9118fdd359f6277cdd143c2da206e64140f3", none⟩ ]

/-- The chains that have USDp. -/
def usdpDeployments : List ParallelChainDeployment :=
  savingsDeployments.map Prod.fst ++ distributionDeployments

/-- The chains that have sUSDp. -/
def susdpDeployments : List ParallelChainDeployment := savingsDeployments.map Prod.snd

/-- `adapter(chain, …)`: everything but the deployments comes from the chain. -/
def savingsChainAdapter (usdp susdp : ParallelChainDeployment) : SavingsChainAdapter where
  chainId := usdp.chainId
  chainSlug := usdp.chainSlug
  chainName := usdp.chainName
  finality := if usdp.chainId = HYPEREVM_CHAIN_ID then .confirmationLag else .rpcFinalized
  usdp := usdp
  susdp := susdp
  manifestVersion := s!"{usdp.chainSlug}-usdp-susdp-state-v1-candidate"

/-- The chains with a vault. -/
def savingsChainAdapters : List SavingsChainAdapter :=
  savingsDeployments.map fun deployments => savingsChainAdapter deployments.1 deployments.2

/-- The chain ids of the savings adapters. -/
def savingsChainIds : List ℕ := savingsChainAdapters.map (·.chainId)

/-- An entry of `usdpSupplyAdapters`; the chain is that of the deployment. -/
structure UsdpSupplyAdapter where
  deployment : ParallelChainDeployment
  finality : Finality
  manifestVersion : String
deriving DecidableEq, Repr

/-- The supply of a deployment is read under its own manifest. -/
def usdpSupplyAdapter (deployment : ParallelChainDeployment) : UsdpSupplyAdapter where
  deployment := deployment
  finality := if deployment.chainId = HYPEREVM_CHAIN_ID then .confirmationLag else .rpcFinalized
  manifestVersion := s!"{deployment.chainSlug}-usdp-supply-v1-candidate"

/-- The chains whose supply of USDp is read. -/
def usdpSupplyAdapters : List UsdpSupplyAdapter := usdpDeployments.map usdpSupplyAdapter

/-- The contracts of `hyperevmProtocol` that the indexer watches by default. -/
def hyperevmUsdpAddress : String := "0xbe65f0f410a72bec163dc65d46c83699e957d588"

/-- The vault on HyperEVM. -/
def hyperevmSusdpAddress : String := "0x9b3a8f7cec208e247d97dee13313690977e24459"

/-- The contract on HyperEVM that mints USDp against collateral. -/
def hyperevmParallelizerAddress : String := "0x1250304f66404cd153fa39388ddcdaec7e0f1707"

end UsdpIndexer
