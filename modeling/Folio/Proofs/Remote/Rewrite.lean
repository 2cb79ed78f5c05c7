import Folio.Proofs.Remote.Content
/-!
Local reasoning about batches. `Rewrites p rs old new` says that a batch turns `old`, standing at
`p`, into `new`, whatever stands before and behind it. Batches that work on neighbouring parts
compose: one that goes from front to back has to follow the new positions (`Rewrites.forward`), one
that goes from back to front keeps to the old ones (`Rewrites.backward`).
-/
set_option autoImplicit false

namespace Folio.Remote

open Edit

def Rewrites (p : Nat) (rs : List Request) (old new : Content) : Prop :=
  ∀ before after : Content, before.length + 1 = p →
    carryOut rs (before ++ old ++ after) = some (before ++ new ++ after)

theorem replaceRange_middle (f : Content → Content) {before old after : Content} {start stop : Nat}
    (hstart : before.length + 1 = start) (hstop : stop = start + old.length) :
    replaceRange start stop f (before ++ old ++ after) = some (before ++ f old ++ after) := by
  have hs : start - 1 = before.length := by omega
  have hlen : stop - start = old.length := by omega
  have hstop' : stop - 1 = (before ++ old).length := by simp; omega
  have hin : 1 ≤ start ∧ start ≤ stop ∧ stop ≤ (before ++ old ++ after).length + 1 := by
    simp; omega
  rw [replaceRange, if_pos hin, hs, hlen, hstop', List.drop_left, List.append_assoc before old,
    List.take_left, List.drop_left, List.take_left]

namespace Rewrites

variable {p : Nat} {rs rs' : List Request} {x y z a a' b b' : Content}

theorem nil (p : Nat) (x : Content) : Rewrites p [] x x := fun _ _ _ => rfl

theorem trans (h : Rewrites p rs x y) (h' : Rewrites p rs' y z) : Rewrites p (rs ++ rs') x z := by
  intro before after hp
  rw [carryOut_append, h before after hp]
  exact h' before after hp

theorem appendRight (h : Rewrites p rs x y) (t : Content) : Rewrites p rs (x ++ t) (y ++ t) := by
  intro before after hp
  have := h before (t ++ after) hp
  simpa only [List.append_assoc] using this

theorem appendLeft {q : Nat} (h : Rewrites q rs x y) (t : Content) (hq : q = p + t.length) :
    Rewrites p rs (t ++ x) (t ++ y) := by
  intro before after hp
  have := h (before ++ t) after (by simp; omega)
  simpa only [List.append_assoc] using this

theorem forward {q : Nat} (h : Rewrites p rs a a') (h' : Rewrites q rs' b b')
    (hq : q = p + a'.length) : Rewrites p (rs ++ rs') (a ++ b) (a' ++ b') :=
  (h.appendRight b).trans (h'.appendLeft a' hq)

theorem backward {q : Nat} (h : Rewrites p rs a a') (h' : Rewrites q rs' b b')
    (hq : q = p + a.length) : Rewrites p (rs' ++ rs) (a ++ b) (a' ++ b') :=
  (h'.appendLeft a hq).trans (h.appendRight b')

theorem carryOut_eq (h : Rewrites 1 rs x y) : carryOut rs x = some y := by
  simpa using h [] [] rfl

end Rewrites

theorem rewrites_single {p : Nat} {r : Request} {x y : Content}
    (h : ∀ before after : Content, before.length + 1 = p →
      applyRequest (before ++ x ++ after) r = some (before ++ y ++ after)) :
    Rewrites p [r] x y := by
  intro before after hp
  simp only [carryOut, h before after hp, Option.bind_some]

theorem rewrites_insertText (p : Nat) (text : String) :
    Rewrites p [.insertText p text] [] (inLook .plain (glyphsOf text)) :=
  rewrites_single fun _ _ hp => replaceRange_middle (fun _ => _) hp rfl

theorem rewrites_insertImage (p : Nat) (uri : String) (size : Option Size) :
    Rewrites p [.insertImage p uri size] [] (inLook .plain [.image uri size]) :=
  rewrites_single fun _ _ hp => replaceRange_middle (fun _ => _) hp rfl

theorem rewrites_insertTable (p : Nat) {rows columns : Nat} (hr : 1 ≤ rows) (hc : 1 ≤ columns) :
    Rewrites p [.insertTable p rows columns] [] (inLook .plain (blankTable rows columns)) := by
  refine rewrites_single fun before after hp => ?_
  rw [applyRequest, if_pos ⟨hr, hc⟩]
  exact replaceRange_middle (fun _ => _) hp rfl

theorem isEmpty_eq_false {start stop : Nat} {x : Content} (hx : x ≠ [])
    (hstop : stop = start + x.length) : (Range.mk start stop).isEmpty = false := by
  have := List.length_pos_iff.2 hx
  simp only [Range.isEmpty, decide_eq_false_iff_not]
  omega

theorem rewrites_delete {p stop : Nat} {x : Content} (hx : x ≠ []) (hstop : stop = p + x.length) :
    Rewrites p [.delete ⟨p, stop⟩] x [] := by
  refine rewrites_single fun before after hp => ?_
  rw [applyRequest, isEmpty_eq_false hx hstop]
  exact replaceRange_middle (fun _ => []) hp hstop

def styled (style : TextStyle) : Content → Content :=
  List.map (Spot.mapLook fun l => { l with text := overlay style l.text })

def headed (level : HeadingLevel) : Content → Content :=
  List.map (Spot.mapLook fun l => { l with heading := some level })

theorem rewrites_text {p stop : Nat} (style : TextStyle) {x : Content} (hx : x ≠ [])
    (hstop : stop = p + x.length) : Rewrites p [.text ⟨p, stop⟩ style] x (styled style x) := by
  refine rewrites_single fun before after hp => ?_
  rw [Request.text, applyRequest, isEmpty_eq_false hx hstop]
  rw [setText_fields]
  exact replaceRange_middle (styled style) hp hstop

theorem rewrites_heading {p stop : Nat} (level : HeadingLevel) {x : Content} (hx : x ≠ [])
    (hstop : stop = p + x.length) : Rewrites p [.heading ⟨p, stop⟩ level] x (headed level x) := by
  refine rewrites_single fun before after hp => ?_
  rw [Request.heading, applyRequest, isEmpty_eq_false hx hstop]
  rw [setHeading_paragraphFields]
  exact replaceRange_middle (headed level) hp hstop

end Folio.Remote
