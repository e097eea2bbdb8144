import RedisCluster.Command.Row

/-! A command and its row agree: on the arguments, on the routing keys and on what is sent. -/

namespace RedisCluster

namespace Row

/-- Arguments at places in a row are still there once others are appended. -/
theorem mapM_getElem?_append {places : List Nat} {args found : List Bytes} (more : List Bytes)
    (all : places.mapM (fun place => args[place]?) = some found) :
    places.mapM (fun place => (args ++ more)[place]?) = some found := by
  induction places generalizing found with
  | nil => exact all
  | cons place rest ih =>
    simp only [List.mapM_cons, Option.bind_eq_bind, Option.bind_eq_some_iff, Option.pure_def,
      Option.some.injEq] at all ⊢
    obtain ⟨bytes, here, others, there, rfl⟩ := all
    -- A place at which something was found lies before everything that is appended.
    have inside : place < args.length := (List.getElem?_eq_some_iff.1 here).1
    exact ⟨bytes, by rwa [List.getElem?_append_left inside], others, ih there, rfl⟩

/-- Appending an operand appends its bytes. -/
theorem args_add (row : Row) (operand : Operand) :
    (row.add operand).args = row.args ++ [operand.bytes] := by
  cases operand <;> rfl

/-- Appending an operand leaves the keys where they are, and a key is found at its place. -/
theorem keys?_add {row : Row} {keys : List Bytes} (found : row.keys? = some keys)
    (operand : Operand) : (row.add operand).keys? = some (keys ++ operand.key?.toList) := by
  cases operand with
  | key bytes =>
    -- The new key is the last argument.
    simp [keys?, add, key, mapM_getElem?_append [bytes] found, Operand.key?]
  | plain bytes => simp [keys?, add, arg, mapM_getElem?_append [bytes] found, Operand.key?]

/-- Appending operands appends their bytes. -/
theorem args_foldl_add (operands : List Operand) (row : Row) :
    (operands.foldl add row).args = row.args ++ operands.map Operand.bytes := by
  induction operands generalizing row with
  | nil => simp
  | cons operand rest ih => simp [ih, args_add]

/-- Appending operands leaves the keys where they are, and puts the new ones behind them. -/
theorem keys?_foldl_add (operands : List Operand) {row : Row} {keys : List Bytes}
    (found : row.keys? = some keys) :
    (operands.foldl add row).keys? = some (keys ++ operands.filterMap Operand.key?) := by
  -- What carries the induction is that the keys so far are found, in whatever row there is.
  induction operands generalizing row keys with
  | nil => simpa using found
  | cons operand rest ih =>
    rw [List.foldl_cons, ih (keys?_add found operand), List.append_assoc]
    -- An operand is a key or none.
    cases operand <;> rfl

/-- The arguments of a command are its name and the bytes of its operands. -/
theorem args_built (name : Bytes) (operands : List Operand) :
    (built name operands).args = name :: operands.map Operand.bytes :=
  args_foldl_add operands (named name)

/-- The keys of a command are all found at their places. -/
theorem keys?_built (name : Bytes) (operands : List Operand) :
    (built name operands).keys? = some (operands.filterMap Operand.key?) := by
  -- To begin with there is only the name, which is no key.
  have unkeyed : (named name).keys? = some [] := rfl
  exact keys?_foldl_add operands unkeyed

/-- It makes no difference to what is sent whether the row is used up. -/
theorem intoFrame_eq_toFrame (row : Row) : row.intoFrame = row.toFrame := by
  have taken (args : List Bytes) : takeAll args = args.map fun bytes => .bulk (some bytes) := by
    -- The arguments are taken one by one, each as a bulk string.
    induction args with
    | nil => rfl
    | cons bytes rest ih => rw [takeAll, ih, List.map_cons]
  rw [intoFrame, toFrame, taken]

end Row

namespace Command

/-- Operands are kept in the order in which they were appended. -/
theorem foldl_add (operands : List Operand) (command : Command) :
    operands.foldl add command = { command with operands := command.operands ++ operands } := by
  induction operands generalizing command with
  | nil => simp
  | cons operand rest ih =>
    rw [List.foldl_cons, ih]
    -- The operand is appended to those that are there.
    cases operand <;> simp [add, arg, key]

/-- A command has the operands that it was built of. -/
theorem built_eq (name : Bytes) (operands : List Operand) :
    built name operands = ⟨name, operands⟩ :=
  foldl_add operands ⟨name, []⟩

/-- What is sent for a command is what is sent for its row. -/
theorem toFrame_built (name : Bytes) (operands : List Operand) :
    (built name operands).toFrame = (Row.built name operands).toFrame := by
  rw [built_eq, toFrame, args, Row.toFrame, Row.args_built]

/-- A command over keys was built of these keys. -/
theorem overKeys_eq (word : String) (keys : List Bytes) :
    overKeys word keys = built (Utf8.encode word) (keys.map .key) := by
  -- To append all the keys is to append them one after the other.
  rw [overKeys, built, List.foldl_map]
  rfl

/-- `MSET` was built of its keys, each with its value behind it. -/
theorem mset_eq (pairs : List (Bytes × Bytes)) :
    mset pairs =
      built (Utf8.encode "MSET") (pairs.flatMap fun (key, value) => [.key key, .plain value]) := by
  -- Every pair appends two operands.
  rw [mset, built, List.foldl_flatMap]
  rfl

/-- The arguments of a command over keys are these keys, and all of them decide the route. -/
theorem operands_overKeys (word : String) (keys : List Bytes) :
    (overKeys word keys).args = Utf8.encode word :: keys ∧ (overKeys word keys).keys = keys := by
  rw [overKeys_eq, built_eq]
  constructor
  · simp [args, Operand.bytes, Function.comp_def]
  · simp [Command.keys, List.filterMap_map, Function.comp_def, Operand.key?]

/-- The arguments of `MSET` are its keys, each with its value behind it, and the keys decide the
route. -/
theorem operands_mset (pairs : List (Bytes × Bytes)) :
    (mset pairs).args = Utf8.encode "MSET" :: pairs.flatMap (fun (key, value) => [key, value]) ∧
      (mset pairs).keys = pairs.map Prod.fst := by
  rw [mset_eq, built_eq]
  -- Of each pair both are sent, but only the first decides the route.
  constructor
  · simp [args, List.map_flatMap, Operand.bytes]
  · induction pairs with
    | nil => rfl
    | cons pair rest ih =>
      rw [Command.keys] at ih ⊢
      simp [List.filterMap_cons, Operand.key?, ih]

end Command

end RedisCluster
