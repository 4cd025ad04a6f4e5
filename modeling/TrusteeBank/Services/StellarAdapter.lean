import TrusteeBank.Services.Loyalty

/-!
# The Horizon adapter

The trustee reads the supply of an asset from Horizon, without keys. Horizon writes an amount as a
decimal text; the adapter turns it into minor units, and minor units into the text of an amount.
-/

set_option autoImplicit false

namespace TrusteeBank

/-- `BigInt(s || '0')`. -/
def bigIntOrZero (cs : List Char) : Except ApiError Int :=
  bigInt (String.ofList (if cs = [] then ['0'] else cs))

/-- Convert integer minor units to a Stellar decimal amount, with at most seven places. -/
def minorToStellarAmount (minor decimals : Int) : Except ApiError String :=
  if decimals < 0 ∨ decimals > 7 then
    .error (.thrown "Error"
      ("Unsupported decimals " ++ toString decimals ++ " for Stellar amount (max 7)"))
  else
    let neg := minor < 0
    let digits := (padZeros (decimals.toNat + 1) (if neg then -minor else minor).toNat).toList
    let cut := digits.length - decimals.toNat
    let intPart := digits.take cut
    let fracPart := if decimals > 0 then '.' :: digits.drop cut else []
    .ok ((if neg then "-" else "") ++ String.ofList (intPart ++ fracPart))

/-- Convert a Stellar decimal amount back to integer minor units. -/
def stellarAmountToMinor (amount : String) (decimals : Int) : Except ApiError Int := do
  let neg := (jsTrim amount.toList).head? = some '-'
  -- `replace` with a string takes out the first occurrence
  let parts := (amount.toList.erase '-').splitOn '.'
  let intRaw := parts.headD []
  let fracRaw := parts.getD 1 []
  if decimals < 0 then
    .error (.thrown "RangeError" ("Invalid count value: " ++ toString decimals))
  let frac := (fracRaw ++ List.replicate decimals.toNat '0').take decimals.toNat
  let scaled := (← bigIntOrZero intRaw) * 10 ^ decimals.toNat + (← bigIntOrZero frac)
  return if neg then -scaled else scaled

/-- What Horizon lists of an asset. Of its balances an older server may leave some out. -/
structure StellarAssetRecord where
  authorized : Option String
  authorizedToMaintainLiabilities : Option String
  unauthorized : Option String
  claimableBalancesAmount : Option String
  liquidityPoolsAmount : Option String
  contractsAmount : Option String
  pagingToken : String

structure StellarSupply where
  assetCode : String
  issuer : String
  circulatingMinor : String
  decimals : Int
  ledgerReference : String
  asOf : String

/-- An operation on the network: an asset is paid out of the issuing account, or taken back. -/
inductive StellarOperation
  | payment (assetCode issuer destination amount : String)
  | clawback (assetCode issuer holder amount : String)
deriving DecidableEq, Repr

structure StellarIssueRequest where
  assetCode : String
  destination : String
  amountMinor : String
  decimals : Int

structure StellarBurnRequest where
  assetCode : String
  holder : String
  amountMinor : String
  decimals : Int

/-- What an adapter is configured with: the public key of its secret, and the network. -/
structure HorizonStellarConfig where
  issuer : Option String
  networkPassphrase : Option String

namespace HorizonStellarAdapter

/-- The trustee's own adapter has neither. -/
def requireIssuer (config : HorizonStellarConfig) : Except ApiError String :=
  match config.issuer, config.networkPassphrase.filter fun s => s ≠ "" with
  | some issuer, some _ => .ok issuer
  | _, _ => .error (.thrown "Error"
    ("On-chain issuance is executed by PayChain (issuer of record); the trustee holds no issuing " ++
      "key. issue/burn require issuerSecret + networkPassphrase."))

/-- The operation that issues an asset; it is signed and submitted to the network. -/
def issue (config : HorizonStellarConfig) (req : StellarIssueRequest) :
    Except ApiError StellarOperation := do
  let issuer ← requireIssuer config
  let amount ← minorToStellarAmount (← bigInt req.amountMinor) req.decimals
  return .payment req.assetCode issuer req.destination amount

/-- The operation that claws an asset back. -/
def burn (config : HorizonStellarConfig) (req : StellarBurnRequest) :
    Except ApiError StellarOperation := do
  let issuer ← requireIssuer config
  let amount ← minorToStellarAmount (← bigInt req.amountMinor) req.decimals
  return .clawback req.assetCode issuer req.holder amount

/-- Everything held outside the issuer: trustline balances plus value in claimable balances,
liquidity pools and contracts. -/
def parts (record : StellarAssetRecord) : List (Option String) :=
  [record.authorized, record.authorizedToMaintainLiabilities, record.unauthorized,
    record.claimableBalancesAmount, record.liquidityPoolsAmount, record.contractsAmount]

/-- `parts.reduce((acc, a) => acc + stellarAmountToMinor(a ?? '0', decimals), 0n)`. -/
def totalMinor (amounts : List (Option String)) (decimals : Int) : Except ApiError Int :=
  amounts.foldlM (fun acc a => return acc + (← stellarAmountToMinor (a.getD "0") decimals)) 0

/-- The supply of an asset by the first record of the page Horizon answers with. -/
def getSupply (call : StellarAssetRef → Except ApiError (List StellarAssetRecord)) (clock : Clock)
    (asset : StellarAssetRef) : Except ApiError StellarSupply := do
  let record := (← call asset).head?
  let circulatingMinor ← match record with
    | some record => do pure (toString (← totalMinor (parts record) asset.decimals))
    | none => pure "0"
  return {
    assetCode := asset.assetCode
    issuer := asset.issuer
    circulatingMinor
    decimals := asset.decimals
    ledgerReference := (record.map StellarAssetRecord.pagingToken).getD ""
    asOf := isoString (clock 0) }

end HorizonStellarAdapter

end TrusteeBank
