import LidoCosmos.CosmWasm.Math

/-! What a call receives and what it answers with: the sender and funds of a message,
and the messages and attributes of a `Response`. The contracts' own execute messages
travel serialized; `WasmPayload` names the ones they send each other. -/
namespace LidoCosmos

abbrev Addr := String

/-- `cosmwasm_std::Coin`. -/
structure Coin where
  denom : String
  amount : Uint128
deriving DecidableEq, Repr

/-- `Display for Coin`: the amount followed by the denom. -/
def Coin.toString (c : Coin) : String := c.amount.toString ++ c.denom

structure MessageInfo where
  sender : Addr
  funds : List Coin
deriving DecidableEq, Repr

/-- The serialized execute messages one contract of the system sends another. -/
inductive WasmPayload where
  /-- `Cw20ExecuteMsg::Mint` to the derivative token. -/
  | mint (recipient : Addr) (amount : Uint128)
  /-- The hub's `ExecuteMsg::BondRewards`. -/
  | bondRewards
  /-- The rewards dispatcher's `ExecuteMsg::DispatchRewards`. -/
  | dispatchRewards
deriving DecidableEq, Repr

inductive CosmosMsg where
  | bankSend (toAddress : Addr) (amount : List Coin)
  | delegate (validator : Addr) (amount : Coin)
  | redelegate (srcValidator dstValidator : Addr) (amount : Coin)
  | withdrawDelegatorReward (validator : Addr)
  | setWithdrawAddress (address : Addr)
  | wasmExecute (contractAddr : Addr) (msg : WasmPayload) (funds : List Coin)
deriving DecidableEq, Repr

def CosmosMsg.isMint : CosmosMsg → Bool
  | .wasmExecute _ (.mint _ _) _ => true
  | _ => false

def CosmosMsg.delegated : CosmosMsg → Nat
  | .delegate _ c => c.amount.val
  | _ => 0

structure Attribute where
  key : String
  value : String
deriving DecidableEq, Repr

def attr (key value : String) : Attribute := ⟨key, value⟩

structure Response where
  messages : List CosmosMsg := []
  attributes : List Attribute := []
deriving DecidableEq, Repr

end LidoCosmos
