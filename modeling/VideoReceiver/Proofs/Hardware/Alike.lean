import VideoReceiver.Proofs.Hardware.Ledger

/-!
# Boards that answer alike

A board may carry more than another one and still answer every call in the same way. What is done
with its answers then comes out the same.

## Main definitions

- `AllocatesAlike`, `AnswersAlike`: what a board carries besides does not show in its answers

## Main statements

- `Recorded.answersAlike`: a recorder answers as the board does
-/

namespace VideoReceiver

variable {η θ : Type}

/-- The images of boards allocate, bind and give back as the boards do. -/
structure AllocatesAlike [SurfaceAllocator η] [SurfaceAllocator θ] (f : η → θ) : Prop where
  allocate_eq (board : η) (size : Nat) :
    SurfaceAllocator.allocate (f board) size =
      Prod.map id f (SurfaceAllocator.allocate board size)
  bindSurface_eq (board : η) (a : Allocation) (format : PictureFormat) :
    SurfaceAllocator.bindSurface (f board) a format =
      Prod.map id f (SurfaceAllocator.bindSurface board a format)
  unbindSurface_eq (board : η) (surface : SurfaceId) :
    SurfaceAllocator.unbindSurface (f board) surface =
      f (SurfaceAllocator.unbindSurface board surface)
  release_eq (board : η) (handle : AllocationHandle) :
    SurfaceAllocator.release (f board) handle = f (SurfaceAllocator.release board handle)

/-- The images of boards answer every call as the boards do. -/
structure AnswersAlike [SurfaceAllocator η] [SurfaceAllocator θ] [VideoDecoder η] [VideoDecoder θ]
    (f : η → θ) : Prop extends AllocatesAlike f where
  submit_eq (board : η) (data : Bytes) (pts : UInt64) :
    VideoDecoder.submit (f board) data pts = Prod.map id f (VideoDecoder.submit board data pts)
  pollEvent_eq (board : η) :
    VideoDecoder.pollEvent (f board) = Prod.map id f (VideoDecoder.pollEvent board)
  registerBuffers_eq (board : η) (buffers : List ExternalBuffer) :
    VideoDecoder.registerBuffers (f board) buffers =
      Prod.map id f (VideoDecoder.registerBuffers board buffers)
  backlog_eq (board : η) : VideoDecoder.backlog (f board) = VideoDecoder.backlog board

namespace Recorded

theorem allocatesAlike [SurfaceAllocator η] : AllocatesAlike (Recorded.board (η := η)) where
  allocate_eq r size := by
    rcases ha : SurfaceAllocator.allocate r.board size with ⟨e | a, board⟩ <;>
      simp [SurfaceAllocator.allocate, ha]
  bindSurface_eq r a format := by
    rcases hb : SurfaceAllocator.bindSurface r.board a format with ⟨e | surface, board⟩ <;>
      simp [SurfaceAllocator.bindSurface, hb]
  unbindSurface_eq _ _ := rfl
  release_eq _ _ := rfl

/-- A recorder answers as the board does. -/
theorem answersAlike [SurfaceAllocator η] [VideoDecoder η] :
    AnswersAlike (Recorded.board (η := η)) where
  toAllocatesAlike := allocatesAlike
  submit_eq r data pts := by
    rcases hs : VideoDecoder.submit r.board data pts with ⟨e | _ | _, board⟩ <;>
      simp [VideoDecoder.submit, hs]
  pollEvent_eq r := by
    rcases hp : VideoDecoder.pollEvent r.board with ⟨e | event, board⟩ <;>
      simp [VideoDecoder.pollEvent, hp]
  registerBuffers_eq r buffers := by
    rcases hr : VideoDecoder.registerBuffers r.board buffers with ⟨e | _, board⟩ <;>
      simp [VideoDecoder.registerBuffers, hr]
  backlog_eq _ := rfl

end Recorded

end VideoReceiver
