import Mathlib.Data.List.Basic

/-!
# Cutting a stream into terminated segments

A stream is read from left to right and cut after the first position at which the
symbols since the previous cut are terminated. What has not been terminated yet is
pending. The cut of a stream is a fold over its symbols, so it does not depend on
how the stream arrives.
-/

namespace Segments

universe u v
variable {Symbol : Type u}

/-- The segments completed so far and the symbols since the last of them. -/
structure Cut (Symbol : Type u) where
  done : List (List Symbol)
  pending : List Symbol

variable (ends : List Symbol → Bool)

/-- Read one symbol. -/
def push (cut : Cut Symbol) (symbol : Symbol) : Cut Symbol :=
  if ends (cut.pending ++ [symbol]) then ⟨cut.done ++ [cut.pending ++ [symbol]], []⟩
  else ⟨cut.done, cut.pending ++ [symbol]⟩

/-- Read a whole stream. -/
def cut (stream : List Symbol) : Cut Symbol := stream.foldl (push ends) ⟨[], []⟩

variable {ends} {stream : List Symbol}

/-- A machine that keeps step with a cut symbol by symbol keeps step with it over
every continuation of the stream. -/
theorem fold_related {Machine : Type v} (read : Machine → Symbol → Machine)
    (Related : Machine → Cut Symbol → Prop) {machine : Machine} {current : Cut Symbol}
    (related : Related machine current)
    (kept : ∀ machine cut symbol, Related machine cut →
      Related (read machine symbol) (push ends cut symbol)) :
    Related (stream.foldl read machine) (stream.foldl (push ends) current) := by
  induction stream generalizing machine current with
  | nil => exact related
  | cons symbol rest inductionHypothesis =>
    exact inductionHypothesis (kept machine current symbol related)

/-- A machine that keeps step with the cut symbol by symbol keeps step with it on
every stream. -/
theorem cut_related {Machine : Type v} (read : Machine → Symbol → Machine)
    (Related : Machine → Cut Symbol → Prop) {start : Machine} (initial : Related start ⟨[], []⟩)
    (kept : ∀ machine cut symbol, Related machine cut →
      Related (read machine symbol) (push ends cut symbol)) :
    Related (stream.foldl read start) (cut ends stream) :=
  fold_related read Related initial kept

/-- The cut of a longer stream goes on from the cut of its beginning. -/
theorem cut_append (front back : List Symbol) :
    cut ends (front ++ back) = back.foldl (push ends) (cut ends front) :=
  List.foldl_append

/-- Symbols that terminate nothing stay pending. -/
theorem fold_pending {current : Cut Symbol}
    (quiet : ∀ front, ∀ symbol ∈ stream, ends (front ++ [symbol]) = false) :
    stream.foldl (push ends) current = ⟨current.done, current.pending ++ stream⟩ := by
  induction stream generalizing current with
  | nil => rw [List.append_nil, List.foldl_nil]
  | cons symbol rest inductionHypothesis =>
    have read : push ends current symbol = ⟨current.done, current.pending ++ [symbol]⟩ := by
      unfold push
      rw [quiet current.pending symbol List.mem_cons_self]
      rfl
    rw [List.foldl_cons, read,
      inductionHypothesis fun front other member =>
        quiet front other (List.mem_cons_of_mem _ member),
      List.append_assoc, List.singleton_append]

/-- Completed segments stay completed. -/
theorem fold_done (current : Cut Symbol) :
    current.done <+: (stream.foldl (push ends) current).done := by
  induction stream generalizing current with
  | nil => exact List.prefix_rfl
  | cons symbol rest inductionHypothesis =>
    refine List.IsPrefix.trans ?_ (inductionHypothesis (push ends current symbol))
    unfold push
    split
    · exact List.prefix_append _ _
    · exact List.prefix_rfl

/-- What is done stays done. -/
theorem cut_done_append_left (front back : List Symbol) :
    (cut ends front).done <+: (cut ends (front ++ back)).done := by
  rw [cut_append]
  exact fold_done _

/-- The segments and what is pending are the stream. -/
theorem fold_whole (current : Cut Symbol) :
    (stream.foldl (push ends) current).done.flatten ++
        (stream.foldl (push ends) current).pending =
      current.done.flatten ++ current.pending ++ stream := by
  induction stream generalizing current with
  | nil => exact (List.append_nil _).symm
  | cons symbol rest inductionHypothesis =>
    have one : (push ends current symbol).done.flatten ++ (push ends current symbol).pending =
        current.done.flatten ++ current.pending ++ [symbol] := by
      unfold push
      split
      · simp
      · simp
    rw [List.foldl_cons, inductionHypothesis, one, List.append_assoc, List.singleton_append]

/-- Nothing is lost by the cut. -/
theorem cut_whole (stream : List Symbol) :
    (cut ends stream).done.flatten ++ (cut ends stream).pending = stream :=
  fold_whole ⟨[], []⟩

/-- No segment is longer than its stream. -/
theorem segment_length_le {segment : List Symbol} (member : segment ∈ (cut ends stream).done) :
    segment.length ≤ stream.length := by
  have whole := congrArg List.length (@cut_whole Symbol ends stream)
  have inside := (List.sublist_flatten_of_mem member).length_le
  rw [List.length_append] at whole
  omega

end Segments
