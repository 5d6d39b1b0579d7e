import ConfigRefs.Proofs.Interpolation.Partition

/-!
# Interpolation: one text behind another

Where a text begins matters only for the offsets of its bodies (`bodiesFrom_add`). If all bodies of a
text are closed and no dollar sign stands at its end, they are the same with another text behind it,
and the bodies of that text follow (`bodies_append`).
-/

namespace ConfigRefs

open ConfigRefs.Text

/-- A range that begins and ends some bytes further on. -/
def Text.Span.shift (distance : Nat) (span : Span) : Span :=
  ⟨span.start + distance, span.stop + distance⟩

namespace Interpolation

/-- A body that begins some bytes further on. -/
def Body.shift (distance : Nat) (body : Body) : Body := { body with start := body.start + distance }

theorem Body.span_shift (distance : Nat) (body : Body) :
    (body.shift distance).span = body.span.shift distance := by
  simp only [Body.span, Body.shift, Span.shift, Span.mk.injEq, true_and]
  omega

/-- Where a text begins is where its bodies count from. -/
theorem bodiesFrom_add (offset distance : Nat) (text : List Char) :
    bodiesFrom (offset + distance) text = (bodiesFrom offset text).map (Body.shift distance) := by
  fun_induction bodiesFrom offset text with
  | case1 offset => rw [bodiesFrom, List.map_nil]
  | case2 offset rest ih => rw [bodiesFrom_escaped, Nat.add_right_comm, ih]
  | case3 offset rest hbody =>
    rw [bodiesFrom_unclosed _ hbody, List.map_singleton, Body.shift, Nat.add_right_comm]
  | case4 offset rest inside behind hbody ih =>
    have hbehind : offset + distance + 2 + byteLength inside + 1
        = offset + 2 + byteLength inside + 1 + distance := by omega
    rw [bodiesFrom_closed _ hbody, List.map_cons, hbehind, ih, Body.shift, Nat.add_right_comm]
  | case5 offset c rest hescaped hmarker ih =>
    rw [bodiesFrom_other _ (fun more hc => hescaped more hc) (fun more hc => hmarker more hc),
      Nat.add_right_comm, ih]

/-- What is behind a body has no influence on it. -/
theorem body?_append {text inside behind : List Char} (h : body? text = some (inside, behind))
    (more : List Char) : body? (text ++ more) = some (inside, behind ++ more) := by
  have hclosing := closing?_replace (closing?_of_body? h) (behind ++ more)
  have htext : inside ++ ['\x7d'] ++ (behind ++ more) = text ++ more := by
    rw [eq_of_body? h]
    simp
  rw [htext] at hclosing
  rw [body?, hclosing]
  simp

/-- **One text behind another.** If all bodies of a text are closed and it does not end with a dollar
sign, the bodies of a text behind it follow on its own. -/
theorem bodiesFrom_append {offset : Nat} {front : List Char}
    (hclosed : ∀ body ∈ bodiesFrom offset front, body.closed = true)
    (hdollar : front.getLast? ≠ some '$') (back : List Char) :
    bodiesFrom offset (front ++ back)
      = bodiesFrom offset front ++ bodiesFrom (offset + byteLength front) back := by
  fun_induction bodiesFrom offset front with
  | case1 offset => rfl
  | case2 offset rest ih =>
    have hrest : rest.getLast? ≠ some '$' := fun h =>
      hdollar (getLast?_append_eq ['$', '$', '\x7b'] h)
    have hlength : offset + byteLength ('$' :: '$' :: '\x7b' :: rest)
        = offset + 3 + byteLength rest := by
      rw [byteLength_escaped]
      omega
    rw [hlength, ← ih hclosed hrest]
    exact bodiesFrom_escaped offset (rest ++ back)
  | case3 offset rest hbody => exact absurd (hclosed _ (List.mem_singleton_self _)) (by simp)
  | case4 offset rest inside behind hbody ih =>
    have htext := eq_delimited_append hbody
    have hbehind : behind.getLast? ≠ some '$' := fun h =>
      hdollar (by rw [htext]; exact getLast?_append_eq _ h)
    have hlength : offset + byteLength ('$' :: '\x7b' :: rest)
        = offset + 2 + byteLength inside + 1 + byteLength behind := by
      rw [htext, byteLength_append, byteLength_delimited]
      omega
    have hrest := ih (fun body hmem => hclosed body (List.mem_cons_of_mem _ hmem)) hbehind
    calc bodiesFrom offset ('$' :: '\x7b' :: (rest ++ back))
        = ⟨offset + 2, inside, true⟩
            :: bodiesFrom (offset + 2 + byteLength inside + 1) (behind ++ back) :=
          bodiesFrom_closed offset (body?_append hbody back)
      _ = _ := by
          rw [hrest, hlength]
          rfl
  | case5 offset c rest hescaped hmarker ih =>
    have hrest : rest.getLast? ≠ some '$' := fun h =>
      hdollar (getLast?_append_eq [c] h)
    -- a marker across the seam would begin with a dollar sign at the end of the first text
    have hseam : ∀ more, c = '$' → rest ++ back ≠ '\x7b' :: more := by
      rintro more rfl h
      cases rest with
      | nil => exact hdollar rfl
      | cons d rest => exact hmarker rest rfl (by rw [(List.cons.inj h).1])
    have hseam' : ∀ more, c = '$' → rest ++ back ≠ '$' :: '\x7b' :: more := by
      rintro more rfl h
      rcases rest with _ | ⟨d, _ | ⟨e, rest⟩⟩
      · exact hdollar rfl
      · obtain ⟨rfl, -⟩ := List.cons.inj h
        exact hrest rfl
      · obtain ⟨rfl, rfl, -⟩ : d = '$' ∧ e = '\x7b' ∧ rest ++ back = more := by simpa using h
        exact hescaped rest rfl rfl
    rw [List.cons_append, bodiesFrom_other offset hseam' hseam, ih hclosed hrest, byteLength_cons,
      Nat.add_assoc]

/-- The bodies of a text, and behind them those of the text behind it. -/
theorem bodies_append {front : List Char} (hclosed : ∀ body ∈ bodies front, body.closed = true)
    (hdollar : front.getLast? ≠ some '$') (back : List Char) :
    bodies (front ++ back) = bodies front ++ (bodies back).map (Body.shift (byteLength front)) := by
  rw [bodies, bodiesFrom_append hclosed hdollar, bodiesFrom_add]
  rfl

end Interpolation

end ConfigRefs
