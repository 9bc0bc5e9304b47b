import RtpAudit.Capture.Format
import RtpAudit.Workspace.Basic

/-! # An opened capture

Opening a capture reads the whole file a path leads to. A path that names nothing, or passes
through a file, cannot be opened. What is opened is read by its size first: a size of zero is
read as no bytes, without mapping anything, so an empty file, and a directory of the kernel's
own file systems, open and hold no bytes. A directory that reports a size cannot be mapped, so
it fails as `cannotMap` with `noDevice`.
-/

namespace RtpAudit

/-- A capture file, opened: the path it was opened by, and its bytes. -/
structure CaptureView where
  path : String
  bytes : Bytes
  deriving DecidableEq, Repr

namespace CaptureView

/-- Open the capture at `path` in `ws`. -/
def «open» (ws : Workspace) (path : String) : Except CaptureError CaptureView :=
  match ws.find path with
  | .error e => .error (.cannotOpen path e)
  | .ok (.directory true) => .error (.cannotMap path .noDevice)
  | .ok (.directory false) => .ok ⟨path, []⟩
  | .ok (.file data) => .ok ⟨path, data⟩

/-- The number of bytes in the capture. -/
def size (v : CaptureView) : Nat := v.bytes.length

/-- Whether the capture holds no bytes. -/
def isEmpty (v : CaptureView) : Bool := v.bytes.isEmpty

/-- The kind of the capture, from its magic. -/
def format (v : CaptureView) : Except CaptureError CaptureFormat :=
  CaptureFormat.classify v.bytes

/-- The view written as a record of its path (quoted) and size. -/
def describe (v : CaptureView) : String :=
  "CaptureView \x7b path: " ++ Text.quote v.path ++ ", size_bytes: " ++ toString v.size ++ " \x7d"

/-- A file opens with the bytes it holds. -/
theorem open_file (ws : Workspace) (path : String) (data : Bytes)
    (h : ws.find path = .ok (.file data)) : CaptureView.open ws path = .ok ⟨path, data⟩ := by
  simp [CaptureView.open, h]

end CaptureView

end RtpAudit
