import Saa7231.Interaction.Transcript
import Saa7231.Stream.InitFrame

/-!
# A failed initialisation

`streamInit` requests the stream, the array of the buffers, five resources for each buffer, and
the ring. `Exchange.refused` says which answers refuse a request. A refusal of the stream itself
leaves the board as it was; after any later one the stream stays allocated, because no path of
`streamInit` frees it (`refused_init_unwound_iff`).
-/

namespace Saa7231

open Interaction

/-- A request for a resource that was not granted. The DMA functions answer `0` to refuse. -/
def refused : Exchange (BusOp BoardOp) (BusAns BoardAns) → Bool
  | ⟨.extra .kzalloc, answer⟩ => (show Option Nat from answer).isNone
  | ⟨.extra .getFreePage, answer⟩ => (show Option Nat from answer).isNone
  | ⟨.extra (.vmalloc _), answer⟩ => (show Option Nat from answer).isNone
  | ⟨.extra (.dmaMapSingle _), answer⟩ => (show BitVec 64 from answer) == 0
  | ⟨.extra (.dmaMapSg _ _), answer⟩ =>
      match (show Except Nat (List (BitVec 64 × Nat)) from answer) with
      | .ok segments => segments.isEmpty
      | .error _ => true
  | _ => false

/-- The initialisation of a transport stream on a board, as its value and the board after it. -/
def runInit (env : Environment) (board : Board) (config : TsConfig) (adapType : AdapterType)
    (count pages : Nat) : Option Stream × Board :=
  (streamInit config .digitalCapture adapType count pages).run (boardWorld env) board

/-- A request of this initialisation is refused. -/
def InitRefused (env : Environment) (board : Board) (config : TsConfig) (adapType : AdapterType)
    (count pages : Nat) : Prop :=
  ∃ step ∈ (streamInit config .digitalCapture adapType count pages).transcript (boardWorld env)
    board, refused step = true

instance (env : Environment) (board : Board) (config : TsConfig) (adapType : AdapterType)
    (count pages : Nat) : Decidable (InitRefused env board config adapType count pages) :=
  inferInstanceAs (Decidable (∃ step ∈ _, _))

/-- `NULL` is returned, the live resources are those of the board before, and no `BUG_ON` was
reached. -/
def Unwound (board : Board) (result : Option Stream × Board) : Prop :=
  result.1 = none ∧ result.2.live = board.live ∧ result.2.bugs = board.bugs

variable {env : Environment} {board : Board} {config : TsConfig} {adapType : AdapterType}
  {count pages : Nat}

/-- A granted stream stays allocated, whatever the initialisation returns. -/
theorem granted_stream_live {handle : Nat} (h : board.grant env .kmem = some handle) :
    (runInit env board config adapType count pages).2.live (.kmem handle) = true := by
  have hrun : runInit env board config adapType count pages =
      (streamInitDigital config (Stream.zero handle .digitalCapture) adapType count pages).run
        (boardWorld env) (board.acquire (some (.kmem handle))) := by
    unfold runInit streamInit
    rw [Program.run_bind, run_kzalloc, h]
    rfl
  rw [hrun]
  refine grows_of_owns (owns_stream_init_digital config _ adapType count pages) _ ?_
  exact (board.live_acquire_iff _ _).mpr (Or.inr rfl)

/-- Without a stream nothing else is requested. -/
theorem refused_stream_run (h : board.grant env .kmem = none) :
    runInit env board config adapType count pages = (none, board.acquire none) := by
  unfold runInit streamInit
  rw [Program.run_bind, run_kzalloc, h]
  rfl

/-- An initialisation undoes itself exactly when no request is refused, or the first one is, that
for the stream. -/
theorem refused_init_unwound_iff :
    (InitRefused env board config adapType count pages →
        Unwound board (runInit env board config adapType count pages)) ↔
      ¬ InitRefused env board config adapType count pages ∨ board.grant env .kmem = none := by
  constructor
  · intro hunwound
    by_cases hrefused : InitRefused env board config adapType count pages
    · right
      obtain ⟨-, hlive, -⟩ := hunwound hrefused
      cases hgrant : board.grant env .kmem with
      | none => rfl
      | some handle =>
          have hstream : (runInit env board config adapType count pages).2.live (.kmem handle) =
              true := granted_stream_live hgrant
          rw [hlive, Board.grant_fresh hgrant] at hstream
          exact Bool.noConfusion hstream
    · exact Or.inl hrefused
  · rintro (hgranted | hgrant) hrefused
    · exact absurd hrefused hgranted
    · rw [refused_stream_run hgrant]
      exact ⟨rfl, rfl, rfl⟩

/-- An environment that refuses the request with a number. -/
def Environment.refusing (request : Nat) : Environment :=
  { Environment.plain with handle := fun n => if n = request then none else some n }

/-- An environment in which no scatterlist can be mapped. -/
def Environment.unmapped : Environment :=
  { Environment.plain with segments := fun _ => .ok [] }

/-- Without memory for the first buffer the stream, the array and the scatterlist of the buffer
stay allocated; without a mapping of its scatterlist a `BUG_ON` is reached. -/
theorem refused_init_leaks :
    let config : TsConfig := ⟨0, 0, 0, 0⟩
    let noMemory := runInit (.refusing 5) .reset config .external 0 tsPages188
    let noMapping := runInit .unmapped .reset config .external 0 tsPages188
    (InitRefused (.refusing 5) .reset config .external 0 tsPages188 ∧
        ¬ Unwound .reset noMemory ∧ noMemory.1 = none ∧
        ∀ handle ∈ [0, 1, 4], noMemory.2.live (.kmem handle) = true) ∧
      InitRefused .unmapped .reset config .external 0 tsPages188 ∧
      ¬ Unwound .reset noMapping ∧ 0 < noMapping.2.bugs := by
  intro config noMemory noMapping
  have hleaked : ∀ handle ∈ [0, 1, 4], noMemory.2.live (.kmem handle) = true := by
    decide +kernel
  have hbug : 0 < noMapping.2.bugs := by decide +kernel
  refine ⟨⟨by decide +kernel, ?_, by decide +kernel, hleaked⟩, by decide +kernel, ?_, hbug⟩
  · rintro ⟨-, hlive, -⟩
    have hstream := hleaked 0 (by simp)
    rw [hlive] at hstream
    exact Bool.noConfusion hstream
  · rintro ⟨-, -, hbugs⟩
    exact absurd hbugs hbug.ne'

end Saa7231
