import StationChat.Model.Text
import Mathlib.Logic.Function.Basic

/-! The policy engine: a risk score from the event and the actor's recent rate. The gateway only
logs its decisions. -/
namespace StationChat.Policy

inductive ActionType where
  | login | roomJoin | messageSend | invite | ban
  deriving DecidableEq, Repr

def ActionType.code : ActionType → Nat
  | login => 0 | roomJoin => 1 | messageSend => 2 | invite => 3 | ban => 4

structure Event where
  action : ActionType
  actorId : UInt32
  actorAddress : StdString
  target : StdString
  payloadSize : Nat
  actorExists : Bool
  targetExists : Bool
  deriving DecidableEq, Repr

inductive DecisionType where
  | allow | softWarn | throttle | block
  deriving DecidableEq, Repr

structure Decision where
  type : DecisionType := .allow
  riskScore : Int := 0
  reason : String := ""
  deriving DecidableEq, Repr

structure Config where
  policyEnabled : Bool := false
  policySoftWarnThreshold : Int := 35
  policyThrottleThreshold : Int := 60
  policyBlockThreshold : Int := 85

/-- `RATE_WINDOW_SECONDS`. -/
def rateWindowSeconds : Nat := 10

/-- Clock readings are in nanoseconds; the cast to seconds truncates. -/
def ticksPerSecond : Nat := 1000000000

/-- `recentActions_`: the queue of clock readings kept for each rate key. -/
abbrev RecentActions := StdString → List Nat

def buildRateKey (event : Event) : StdString :=
  toStdString event.actorId.toNat ++ 0x7C :: event.actorAddress ++
    0x7C :: toStdString event.action.code

/-- Entries are dropped from the front while they are older than the window. -/
def dropOld (now : Nat) : List Nat → List Nat
  | [] => []
  | t :: queue =>
    if (now - t) / ticksPerSecond > rateWindowSeconds then dropOld now queue else t :: queue

/-- The size of the queue is returned as an `int`. -/
def getRecentActionCount (recent : RecentActions) (event : Event) (now : Nat) : Int × RecentActions :=
  let queue := dropOld now (recent (buildRateKey event) ++ [now])
  ((Int32.ofNat queue.length).toInt, Function.update recent (buildRateKey event) queue)

def calculateRiskScore (recent : RecentActions) (event : Event) (now : Nat) : Int × RecentActions :=
  let action : Int := match event.action with
    | .login => 5 | .roomJoin => 10 | .messageSend => 15 | .invite => 20 | .ban => 25
  let actor : Int := if event.actorExists then 0 else 30
  let target : Int := if event.targetExists then 0 else 20
  let payload : Int :=
    if event.payloadSize > 500 then 20 else if event.payloadSize > 200 then 10 else 0
  let empty : Int := if event.target.isEmpty then 10 else 0
  let (count, recent) := getRecentActionCount recent event now
  let rate : Int := if count > 20 then 35 else if count > 10 then 20 else if count > 5 then 10 else 0
  (action + actor + target + payload + empty + rate, recent)

def evaluate (config : Config) (recent : RecentActions) (event : Event) (now : Nat) :
    Decision × RecentActions :=
  if !config.policyEnabled then ({ reason := "policy disabled" }, recent)
  else
    let (riskScore, recent) := calculateRiskScore recent event now
    if riskScore ≥ config.policyBlockThreshold then
      (⟨.block, riskScore, "risk exceeded block threshold"⟩, recent)
    else if riskScore ≥ config.policyThrottleThreshold then
      (⟨.throttle, riskScore, "risk exceeded throttle threshold"⟩, recent)
    else if riskScore ≥ config.policySoftWarnThreshold then
      (⟨.softWarn, riskScore, "risk exceeded soft-warn threshold"⟩, recent)
    else (⟨.allow, riskScore, "risk below thresholds"⟩, recent)

end StationChat.Policy
