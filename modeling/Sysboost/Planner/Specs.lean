import Sysboost.Planner.Policy

/-!
# Feature specifications

The reviewed feature families in the order of the plan, what a profile wants of
them, and the closed operations that carry out a wish.
-/

namespace Sysboost.Planner

open Sysboost.Core

/-- What a profile may want of a feature family. -/
inductive ProfileTarget where
  | governor
  | energyPreference
  | platformPerformance
  | gpuPerformance
  | none
deriving DecidableEq

structure FeatureSpec where
  feature : Feature
  capability : CapabilityId
  operation : OperationId
  control : ControlId
  risk : RiskClass
  classification : FeatureClass
  explicitOptIn : Bool
  extremeCandidate : Bool
  profileTarget : ProfileTarget
deriving DecidableEq

def featureSpecs : List FeatureSpec := [
  { feature := .cpuGovernor
    capability := CapabilityIds.cpuPolicyGovernor
    operation := OperationIds.cpuGovernor
    control := .cpuGovernor
    risk := .low
    classification := .runtimeMutable
    explicitOptIn := false
    extremeCandidate := false
    profileTarget := .governor },
  { feature := .cpuEnergyPreference
    capability := CapabilityIds.cpuPolicyEnergyPreference
    operation := OperationIds.cpuEnergyPreference
    control := .cpuEnergyPreference
    risk := .low
    classification := .runtimeMutable
    explicitOptIn := false
    extremeCandidate := false
    profileTarget := .energyPreference },
  { feature := .cpuFrequency
    capability := CapabilityIds.cpuPolicyFrequencyMax
    operation := OperationIds.cpuFrequency
    control := .cpuFrequency
    risk := .medium
    classification := .runtimeMutable
    explicitOptIn := false
    extremeCandidate := false
    profileTarget := .none },
  { feature := .cpuPlacement
    capability := CapabilityIds.cpuTopology
    operation := ⟨"report.cpu.topology", rfl⟩
    control := .reportOnly
    risk := .low
    classification := .bootOnlyReportOnly
    explicitOptIn := false
    extremeCandidate := false
    profileTarget := .none },
  { feature := .cpuBoost
    capability := CapabilityIds.cpuBoost
    operation := OperationIds.cpuBoost
    control := .cpuBoost
    risk := .medium
    classification := .runtimeMutable
    explicitOptIn := false
    extremeCandidate := false
    profileTarget := .none },
  { feature := .platformProfile
    capability := CapabilityIds.platformProfile
    operation := OperationIds.platformProfile
    control := .platformProfile
    risk := .medium
    classification := .conditional
    explicitOptIn := false
    extremeCandidate := false
    profileTarget := .platformPerformance },
  { feature := .cgroupCpu
    capability := CapabilityIds.cgroupCpuWeight
    operation := OperationIds.cgroupCpuWeight
    control := .cgroupCpuWeight
    risk := .medium
    classification := .runtimeMutable
    explicitOptIn := false
    extremeCandidate := false
    profileTarget := .none },
  { feature := .cgroupCpu
    capability := CapabilityIds.cgroupCpuMax
    operation := OperationIds.cgroupCpuMax
    control := .cgroupCpuMax
    risk := .medium
    classification := .runtimeMutable
    explicitOptIn := false
    extremeCandidate := false
    profileTarget := .none },
  { feature := .cgroupCpu
    capability := CapabilityIds.cgroupCpusetCpus
    operation := OperationIds.cgroupCpusetCpus
    control := .cgroupCpuset
    risk := .medium
    classification := .conditional
    explicitOptIn := false
    extremeCandidate := false
    profileTarget := .none },
  { feature := .gpuTuning
    capability := CapabilityIds.gpuPerformanceProfile
    operation := ⟨"gpu.performance.profile", rfl⟩
    control := .gpuPerformanceProfile
    risk := .critical
    classification := .experimental
    explicitOptIn := true
    extremeCandidate := true
    profileTarget := .gpuPerformance },
  { feature := .gpuTuning
    capability := CapabilityIds.gpuPowerLimit
    operation := ⟨"gpu.power.limit", rfl⟩
    control := .gpuPowerLimit
    risk := .critical
    classification := .experimental
    explicitOptIn := true
    extremeCandidate := true
    profileTarget := .none },
  { feature := .irqTuning
    capability := CapabilityIds.irqAffinity
    operation := ⟨"irq.affinity", rfl⟩
    control := .irqAffinity
    risk := .critical
    classification := .experimental
    explicitOptIn := true
    extremeCandidate := true
    profileTarget := .none },
  { feature := .schedulerTuning
    capability := CapabilityIds.scheduler
    operation := ⟨"report.scheduler.workload", rfl⟩
    control := .schedulerWorkload
    risk := .critical
    classification := .experimental
    explicitOptIn := true
    extremeCandidate := true
    profileTarget := .none },
  { feature := .cgroupCpu
    capability := CapabilityIds.cgroupUclamp
    operation := ⟨"report.cgroup.uclamp", rfl⟩
    control := .cgroupUclamp
    risk := .medium
    classification := .conditional
    explicitOptIn := false
    extremeCandidate := false
    profileTarget := .none },
  { feature := .transparentHugePages
    capability := CapabilityIds.memoryThp
    operation := ⟨"report.memory.thp", rfl⟩
    control := .transparentHugePages
    risk := .medium
    classification := .conditional
    explicitOptIn := false
    extremeCandidate := false
    profileTarget := .none },
  { feature := .memoryVm
    capability := CapabilityIds.kernelSysctlRuntime
    operation := ⟨"kernel.sysctl.runtime", rfl⟩
    control := .memoryVm
    risk := .high
    classification := .conditional
    explicitOptIn := false
    extremeCandidate := false
    profileTarget := .none }]

/-! ## What a profile wants -/

/-- A value the interface advertises; an interface that advertises no values
takes any. -/
def CurrentStateFact.offers (fact : CurrentStateFact) (value : PlanValue) : Bool :=
  fact.supportedValues.isEmpty || fact.supportedValues.contains value

/-- The first candidate that the interface offers. -/
def chooseValue (fact : Option CurrentStateFact) (candidates : List TypedValue) :
    Option PlanValue :=
  fact.bind fun fact => (candidates.map PlanValue.typed).find? fact.offers

def governorValue (name : String) (valid : GovernorId.accepts name = true) : TypedValue :=
  .governor ⟨name, valid⟩

/-- `choose_governor` with the candidates of an intent. -/
def chooseGovernor (fact : Option CurrentStateFact) : PerformanceIntent → Option PlanValue
  | .balanced => chooseValue fact [governorValue "schedutil" rfl, governorValue "ondemand" rfl]
  | .performance => chooseValue fact [governorValue "performance" rfl]

/-- `choose_energy_preference` with the candidates of an intent. -/
def chooseEnergyPreference (fact : Option CurrentStateFact) :
    PerformanceIntent → Option PlanValue
  | .balanced =>
      chooseValue fact [.energyPreference .balancePerformance, .energyPreference .balancePower]
  | .performance => chooseValue fact [.energyPreference .performance]

def choosePlatformProfile (fact : Option CurrentStateFact) : Option PlanValue :=
  chooseValue fact [.platformProfile ⟨"performance", rfl⟩]

/-- A choice, or the reason why an observed interface gives none. -/
def chosen (fact : Option CurrentStateFact) (reason : String) (choice : Option PlanValue) :
    Option PlanValue × Option String :=
  match choice with
  | some value => (some value, none)
  | none => (none, if fact.isSome then some reason else none)

/-- The value a profile wants, and why it cannot have one. -/
def profileDesired (profile : Profile) (spec : FeatureSpec) (fact : Option CurrentStateFact) :
    Option PlanValue × Option String :=
  match spec.profileTarget with
  | .governor =>
      chosen fact "profile target is not among the values advertised by the interface"
        (chooseGovernor fact profile.intent)
  | .energyPreference =>
      chosen fact "profile EPP target is not among the values advertised by the interface"
        (chooseEnergyPreference fact profile.intent)
  | .platformPerformance =>
      if profile = .balanced then (none, none)
      else
        chosen fact "platform performance profile is not advertised by the interface"
          (choosePlatformProfile fact)
  | .gpuPerformance =>
      if profile = .extreme then (some (.typed (.gpuPerformanceProfile .performance)), none)
      else (none, none)
  | .none => (none, none)

/-! ## Closed operations -/

/-- The operation that gives the typed target of a fact a desired value. -/
def defaultKind (control : ControlId) (fact : CurrentStateFact) (desired : TypedValue) :
    Option MutationKind :=
  match fact.typedTarget with
  | none => none
  | some target =>
      match control, target, desired with
      | .cpuGovernor, .cpuPolicy policy, .governor governor => some (.cpuGovernor policy governor)
      | .cpuEnergyPreference, .cpuPolicy policy, .energyPreference value =>
          some (.cpuEnergyPreference policy value)
      | .cpuBoost, .cpuSystem, .cpuBoost state => some (.cpuBoost state)
      | .platformProfile, .cpuSystem, .platformProfile profile => some (.platformProfile profile)
      | .cgroupCpuWeight, .cgroup cgroup, .cgroupCpuWeight weight =>
          some (.cgroupCpuWeight cgroup weight)
      | .cgroupCpuMax, .cgroup cgroup, .cgroupCpuMax quota period =>
          some (.cgroupCpuMax cgroup quota period)
      | .cgroupCpuset, .cgroup cgroup, .cgroupCpuset cpus => some (.cgroupCpuset cgroup cpus)
      | .cgroupUclamp, .cgroup cgroup, .cgroupUclamp value => some (.cgroupUclampMin cgroup value)
      | .cgroupUclampMin, .cgroup cgroup, .cgroupUclamp value =>
          some (.cgroupUclampMin cgroup value)
      | .cgroupUclampMax, .cgroup cgroup, .cgroupUclamp value =>
          some (.cgroupUclampMax cgroup value)
      | .cgroupIoWeight, .cgroup cgroup, .cgroupIoWeight weight =>
          some (.cgroupIoWeight cgroup weight)
      | .schedulerWorkload, .process process, .nice nice => some (.processNice process nice)
      | .processNice, .process process, .nice nice => some (.processNice process nice)
      | .schedulerWorkload, .process process, .ioPriority priority =>
          some (.processIoPriority process priority)
      | .processIoPriority, .process process, .ioPriority priority =>
          some (.processIoPriority process priority)
      | .schedulerWorkload, .process process, .processPlacement cgroup =>
          some (.processPlacement process cgroup)
      | .processPlacement, .process process, .processPlacement cgroup =>
          some (.processPlacement process cgroup)
      | .cgroupWorkload, .cgroup parent, .cgroupLifecycle .workload name true =>
          some (.cgroupWorkload parent name)
      | .cgroupBackground, .cgroup parent, .cgroupLifecycle .conservativeBackground name true =>
          some (.cgroupBackground parent name)
      | .gpuPerformanceProfile, .gpu device, .gpuPerformanceProfile profile =>
          some (.gpuPerformanceProfile device profile)
      | _, _, _ => none

/-- The control and the target category of an operation. -/
def operationShape : MutationKind → ControlId × TargetKind
  | .cpuFrequency .. => (.cpuFrequency, .cpuPolicy)
  | .cpuGovernor .. => (.cpuGovernor, .cpuPolicy)
  | .cpuEnergyPreference .. => (.cpuEnergyPreference, .cpuPolicy)
  | .cpuBoost .. => (.cpuBoost, .cpuSystem)
  | .platformProfile .. => (.platformProfile, .cpuSystem)
  | .cgroupCpuWeight .. => (.cgroupCpuWeight, .cgroup)
  | .cgroupCpuMax .. => (.cgroupCpuMax, .cgroup)
  | .cgroupCpuset .. => (.cgroupCpuset, .cgroup)
  | .cgroupIoWeight .. => (.cgroupIoWeight, .cgroup)
  | .cgroupUclampMin .. => (.cgroupUclampMin, .cgroup)
  | .cgroupUclampMax .. => (.cgroupUclampMax, .cgroup)
  | .cgroupWorkload .. => (.cgroupWorkload, .cgroup)
  | .cgroupBackground .. => (.cgroupBackground, .cgroup)
  | .processPlacement .. => (.processPlacement, .process)
  | .processNice .. => (.processNice, .process)
  | .processIoPriority .. => (.processIoPriority, .process)
  | .gpuPerformanceProfile .. => (.gpuPerformanceProfile, .gpu)
  | .gpuPowerLimit .. => (.gpuPowerLimit, .gpu)
  | .irqAffinity .. => (.irqAffinity, .irq)
  | .runtimeSysctl .. => (.memoryVm, .sysctl)

/-- The capability an operation belongs to. -/
def expectedCapability : MutationKind → CapabilityId
  | .cpuFrequency .. => CapabilityIds.cpuPolicyFrequencyMax
  | .cpuGovernor .. => CapabilityIds.cpuPolicyGovernor
  | .cpuEnergyPreference .. => CapabilityIds.cpuPolicyEnergyPreference
  | .cpuBoost .. => CapabilityIds.cpuBoost
  | .platformProfile .. => CapabilityIds.platformProfile
  | .cgroupCpuWeight .. => CapabilityIds.cgroupCpuWeight
  | .cgroupCpuMax .. => CapabilityIds.cgroupCpuMax
  | .cgroupCpuset .. => CapabilityIds.cgroupCpusetCpus
  | .cgroupIoWeight .. => CapabilityIds.cgroupIoWeight
  | .cgroupUclampMin .. | .cgroupUclampMax .. => CapabilityIds.cgroupUclamp
  | .cgroupWorkload .. => CapabilityIds.cgroupWorkload
  | .cgroupBackground .. => CapabilityIds.cgroupBackground
  | .processPlacement .. => CapabilityIds.processPlacement
  | .processNice .. => CapabilityIds.processNice
  | .processIoPriority .. => CapabilityIds.processIoprio
  | .gpuPerformanceProfile .. => CapabilityIds.gpuPerformanceProfile
  | .gpuPowerLimit .. => CapabilityIds.gpuPowerLimit
  | .irqAffinity .. => CapabilityIds.irqAffinity
  | .runtimeSysctl .. => CapabilityIds.kernelSysctlRuntime

/-- `validate_request`. -/
def PolicyRequest.validate (request : PolicyRequest) : Except SysboostError Unit :=
  if request.capability ≠ expectedCapability request.operation then
    .error ((((SysboostError.new .planningError
      ("explicit request capability does not match its " ++
        (operationShape request.operation).1.display ++ " operation")).withStage
          .plan).withCapability request.capability).withTarget request.target)
  else .ok ()

end Sysboost.Planner
