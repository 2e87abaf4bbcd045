import CefHost.Library.Signed
import CefHost.Pacing

/-!
# The view rectangle

`GetViewRect` reports the stored size, which is unsigned, as a rectangle of signed numbers. CEF
wants it never to be empty. The size comes from the command line, where a zero is made a one but
nothing is said of large numbers, and from the `Resize` events of the consumer, where nothing is
checked at all.

## Main results

* `OsrHandler.viewRectNonempty_handleControlEvent_iff` — one control event
* `viewRect_nonempty_iff` — the rectangle is never empty exactly when all sizes are such
-/

namespace CefHost

/-- A size that is positive as signed numbers. -/
def Showable (width height : UInt32) : Prop :=
  (0 < width ∧ width < 0x80000000) ∧ 0 < height ∧ height < 0x80000000

instance (width height : UInt32) : Decidable (Showable width height) :=
  inferInstanceAs (Decidable (_ ∧ _))

namespace OsrHandler

def getViewRect (s : OsrHandler) : CefRect :=
  ⟨0, 0, s.painter.width.toInt32, s.painter.height.toInt32⟩

/-- CEF can render the rectangle. -/
def ViewRectNonempty (s : OsrHandler) : Prop :=
  0 < s.getViewRect.width ∧ 0 < s.getViewRect.height

instance (s : OsrHandler) : Decidable s.ViewRectNonempty := inferInstanceAs (Decidable (_ ∧ _))

theorem viewRectNonempty_iff (s : OsrHandler) :
    s.ViewRectNonempty ↔ Showable s.painter.width s.painter.height :=
  and_congr (Signed.pos_toInt32_iff _) (Signed.pos_toInt32_iff _)

/-- A `Resize` event asks for a size CEF can render. -/
def ResizeShowable : ControlEvent → Prop
  | .resize width height => Showable width height
  | _ => True

/-- **One control event.** The rectangle stays nonempty unless the event is a bad resize. -/
theorem viewRectNonempty_handleControlEvent_iff {s : OsrHandler} (h : s.ViewRectNonempty)
    (e : ControlEvent) : (s.handleControlEvent e).ViewRectNonempty ↔ ResizeShowable e := by
  cases e with
  | resize width height => exact viewRectNonempty_iff _
  | _ => exact iff_of_true h trivial

/-- **Control events**, from a nonempty rectangle on. -/
theorem always_viewRectNonempty_iff {s : OsrHandler} (h : s.ViewRectNonempty)
    (events : List ControlEvent) :
    Runs.Always handleControlEvent ViewRectNonempty s events ↔ ∀ e ∈ events, ResizeShowable e := by
  have halong : Runs.Along handleControlEvent (fun _ e => ResizeShowable e) s events
      ↔ ∀ e ∈ events, ResizeShowable e := Runs.along_iff_forall_mem
  rw [← halong]
  have hnext : ∀ s e, True → ViewRectNonempty s →
      (ViewRectNonempty (handleControlEvent s e) ↔ ResizeShowable e) :=
    fun s e _ hs => viewRectNonempty_handleControlEvent_iff hs e
  exact Runs.always_iff_along (fun _ _ _ _ _ => trivial) hnext trivial h events

end OsrHandler

/-- **The view rectangle.** From the constructor on, through any control events, `GetViewRect`
never returns an empty rectangle exactly when the configured size is below `2 ^ 31` each way and
so is, and not zero, the size of every `Resize` event. -/
theorem viewRect_nonempty_iff (argv : List Arg) (d3d : D3DInterfaces)
    (events : List ControlEvent) :
    Runs.Always OsrHandler.handleControlEvent OsrHandler.ViewRectNonempty
        (Pacing.onContextInitialized (fromArgs argv) d3d).host events
      ↔ ((fromArgs argv).width < 0x80000000 ∧ (fromArgs argv).height < 0x80000000)
        ∧ ∀ e ∈ events, OsrHandler.ResizeShowable e := by
  have hconfig := fromArgs_sanitized argv
  have hstart : (Pacing.onContextInitialized (fromArgs argv) d3d).host.ViewRectNonempty
      ↔ (fromArgs argv).width < 0x80000000 ∧ (fromArgs argv).height < 0x80000000 := by
    rw [OsrHandler.viewRectNonempty_iff]
    change Showable (fromArgs argv).width (fromArgs argv).height ↔ _
    simp only [Showable, hconfig.width, hconfig.height, true_and]
  constructor
  · intro h
    exact ⟨hstart.mp h.head, (OsrHandler.always_viewRectNonempty_iff h.head events).mp h⟩
  · rintro ⟨hsize, hevents⟩
    exact (OsrHandler.always_viewRectNonempty_iff (hstart.mpr hsize) events).mpr hevents

/-- A `Resize` event of height zero. -/
theorem zero_resize_empties_viewRect :
    ¬ Runs.Always OsrHandler.handleControlEvent OsrHandler.ViewRectNonempty
        (Pacing.onContextInitialized (fromArgs [ascii "host"]) fullD3D).host [.resize 640 0] := by
  rw [Runs.always_cons, Runs.always_nil]
  decide

end CefHost
