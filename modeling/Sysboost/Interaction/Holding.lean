import Sysboost.Interaction.Early

/-!
# Programs that hold a part of the world

A part of the world is read off by a view.  As long as the calls of a program
keep the view, the program can be followed step by step with the view fixed, and
what it returns can depend on it.
-/

namespace Interaction

universe u v w x y

variable {Call : Type u} {Answer : Call → Type v} {W : Type x} {V : Type y} {α β ε : Type w}
  {env : Environment Answer W} {guard : W → Call → Prop}

/-- The view is still the held one, and what is returned satisfies `shows`. -/
def Holds (view : W → V) (held : V) (shows : α → Prop) : Except ε α → W → Prop :=
  fun result after => (∀ value, result = .ok value → shows value) ∧ view after = held

variable {view : W → V} {held : V} {shows : α → Prop} {world : W}

theorem Holds.error {error : ε} (same : view world = held) :
    Holds view held shows (.error error) world :=
  ⟨nofun, same⟩

theorem Holds.ok {value : α} (shown : shows value) (same : view world = held) :
    Holds (ε := ε) view held shows (.ok value) world := by
  constructor
  · rintro _ ⟨⟩
    exact shown
  · exact same

/-- A check at the end. -/
theorem Holds.check {result : Except ε α} (shown : ∀ value, result = .ok value → shows value)
    (same : view world = held) :
    Alone env guard (Holds view held shows) (Early.check result : Early Answer ε α).run world :=
  Alone.ret_iff.mpr ⟨shown, same⟩

/-- The allowed calls are guarded where the view is the held one, and keep it. -/
def Keeping (env : Environment Answer W) (guard : W → Call → Prop) (view : W → V) (held : V)
    (allowed : Call → Prop) : Prop :=
  ∀ world request, view world = held → allowed request → guard world request ∧
    ∀ answer after, env world request answer after → view after = held

theorem Keeping.mono {allowed fewer : Call → Prop} (keeping : Keeping env guard view held allowed)
    (implies : ∀ request, fewer request → allowed request) :
    Keeping env guard view held fewer :=
  fun world request same may => keeping world request same (implies request may)

/-- A program of such calls holds the view. -/
theorem Keeping.holds {allowed : Call → Prop} (keeping : Keeping env guard view held allowed)
    {program : Early Answer ε α}
    (within : Within allowed (fun result => ∀ value, result = .ok value → shows value) program.run)
    (same : view world = held) : Alone env guard (Holds view held shows) program.run world := by
  refine within.safe ?_ ?_ same
  · rintro before _ rfl same
    exact same
  · exact fun same may => keeping _ _ same may

/-- Go on where the view is still held. -/
theorem Holds.seq {program : Early Answer ε α} {next : α → Early Answer ε β}
    {post : Except ε β → W → Prop}
    (first : Alone env guard (Holds view held shows) program.run world)
    (early : ∀ error after, view after = held → post (.error error) after)
    (later : ∀ value after, shows value → view after = held →
      Alone env guard post (next value).run after) :
    Alone env guard post (program >>= next).run world := by
  apply Alone.run_seq first
  · exact fun error after known => early error after known.2
  · exact fun value after known => later value after (known.1 value rfl) known.2

/-- Go on after calls whose results do not matter. -/
theorem Keeping.seq {allowed : Call → Prop} (keeping : Keeping env guard view held allowed)
    {program : Early Answer ε α} {next : α → Early Answer ε β} {post : Except ε β → W → Prop}
    (calls : Within allowed (fun _ => True) program.run) (same : view world = held)
    (early : ∀ error after, view after = held → post (.error error) after)
    (later : ∀ value after, view after = held → Alone env guard post (next value).run after) :
    Alone env guard post (program >>= next).run world := by
  have first : Alone env guard (Holds view held fun _ => True) program.run world :=
    keeping.holds (calls.mono fun _ _ _ _ => trivial) same
  exact Holds.seq first early fun value after _ => later value after

/-- Go on after a refusal that did not happen. -/
theorem Alone.refuseIf_seq {condition : Bool} {error : ε} {next : PUnit → Early Answer ε β}
    {post : Except ε β → W → Prop} (early : post (.error error) world)
    (later : condition = false → Alone env guard post (next ⟨⟩).run world) :
    Alone env guard post (Early.refuseIf condition error >>= next).run world := by
  cases condition with
  | false => exact later rfl
  | true => exact Alone.ret_iff.mpr early

/-- Go on after a check that succeeded. -/
theorem Alone.check_seq {result : Except ε α} {next : α → Early Answer ε β}
    {post : Except ε β → W → Prop} (early : ∀ error, post (.error error) world)
    (later : ∀ value, result = .ok value → Alone env guard post (next value).run world) :
    Alone env guard post (Early.check result >>= next).run world := by
  cases result with
  | error error => exact Alone.ret_iff.mpr (early error)
  | ok value => exact later value rfl

/-- Go on with a result, whatever it is. -/
theorem Alone.inspect {δ : Type w} {program : Early Answer δ α}
    {next : Except δ α → Early Answer ε β} {m : Except δ α → W → Prop}
    {post : Except ε β → W → Prop} (first : Alone env guard m program.run world)
    (later : ∀ result after, m result after → Alone env guard post (next result).run after) :
    Alone env guard post (Early.inspect program next).run world :=
  Alone.seq first later

end Interaction
