import Bundler.Text.Utf8

/-! Byte offsets of a text that lie between two of its characters. -/

namespace Bundler.Text

theorem byteLength_eq_add (start : Nat) (chars : List Char) :
    chars.foldl (fun length c => length + c.utf8Size) start = start + byteLength chars := by
  unfold byteLength
  induction chars generalizing start with
  | nil => rfl
  | cons c chars ih =>
      simp only [List.foldl_cons]
      rw [ih, ih (0 + c.utf8Size)]
      omega

@[simp] theorem byteLength_nil : byteLength [] = 0 := rfl

@[simp] theorem byteLength_cons (c : Char) (chars : List Char) :
    byteLength (c :: chars) = c.utf8Size + byteLength chars := by
  rw [byteLength, List.foldl_cons, byteLength_eq_add, Nat.zero_add]

@[simp] theorem byteLength_append (left right : List Char) :
    byteLength (left ++ right) = byteLength left + byteLength right := by
  rw [byteLength, List.foldl_append, byteLength_eq_add]
  rfl

theorem byteLength_pos {chars : List Char} (nonempty : chars ≠ []) : 0 < byteLength chars := by
  obtain ⟨c, rest, rfl⟩ := List.exists_cons_of_ne_nil nonempty
  rw [byteLength_cons]
  exact Nat.add_pos_left c.utf8Size_pos _

theorem utf8ByteSize_ofList (chars : List Char) :
    (String.ofList chars).utf8ByteSize = byteLength chars := by
  induction chars with
  | nil => rfl
  | cons c chars ih =>
      rw [String.ofList_cons, String.utf8ByteSize_append, String.utf8ByteSize_singleton, ih,
        byteLength_cons]

theorem byteLength_toList (text : String) : byteLength text.toList = text.utf8ByteSize := by
  rw [← utf8ByteSize_ofList, String.ofList_toList]

theorem cut?_append (before inside after : List Char) :
    cut? before (byteLength inside) (inside ++ after) = some (inside.reverse ++ before, after) := by
  induction inside generalizing before with
  | nil => cases after <;> rfl
  | cons c inside ih =>
      have positive := c.utf8Size_pos
      obtain ⟨n, size⟩ : ∃ n, byteLength (c :: inside) = n + 1 :=
        ⟨c.utf8Size + byteLength inside - 1, by rw [byteLength_cons]; omega⟩
      rw [byteLength_cons] at size
      have fits : c.utf8Size ≤ n + 1 := by omega
      have left : n + 1 - c.utf8Size = byteLength inside := by omega
      rw [byteLength_cons, size, List.cons_append, cut?, if_pos fits, left, ih]
      simp

theorem exists_of_cut?_eq_some {before after back rest : List Char} {n : Nat}
    (cut : cut? before n after = some (back, rest)) :
    ∃ inside, after = inside ++ rest ∧ n = byteLength inside := by
  induction after generalizing before n with
  | nil =>
      cases n with
      | zero =>
          cases cut
          exact ⟨[], rfl, rfl⟩
      | succ n => cases cut
  | cons c after ih =>
      cases n with
      | zero =>
          cases cut
          exact ⟨[], rfl, rfl⟩
      | succ n =>
          rw [cut?] at cut
          split at cut
          · rename_i fits
            obtain ⟨inside, rfl, size⟩ := ih cut
            refine ⟨c :: inside, rfl, ?_⟩
            rw [byteLength_cons, ← size]
            omega
          · cases cut

theorem sliceBack?_append_add (before rest : String) (width : Nat) :
    sliceBack? (before ++ rest) before.utf8ByteSize (before.utf8ByteSize + width) =
      (cut? [] width rest.toList).map Prod.fst := by
  have start := cut?_append [] before.toList rest.toList
  rw [byteLength_toList] at start
  rw [sliceBack?, String.toList_append, start]
  simp only [Option.bind_eq_bind, Option.bind_some, Nat.le_add_right, ↓reduceIte,
    Nat.add_sub_cancel_left]
  cases cut? [] width rest.toList <;> rfl

theorem sliceBack?_append (before inside after : String) :
    sliceBack? (before ++ inside ++ after) before.utf8ByteSize
      (before.utf8ByteSize + inside.utf8ByteSize) = some inside.toList.reverse := by
  rw [String.append_assoc, sliceBack?_append_add, String.toList_append,
    ← byteLength_toList inside, cut?_append, List.append_nil]
  rfl

end Bundler.Text
