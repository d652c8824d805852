/-
What values have in common: whether they count as true, how they are shown, whether they are the same, which one is less,
and the items that they are gone through by. A class of a program may say these things for its own objects; how its
functions are called is given, as `call`.
-/
import ScriptBridge.Shell.BlockScript.Display

namespace ScriptBridge.Shell.BlockScript

/-- calls a value with arguments, of which some are named -/
abbrev Caller := Value → List Value → List (String × Value) → Work Value

/-! ## Classes -/

/-- the class and those that it comes from, in the order in which names are looked for in them -/
def lineage : Nat → Value → Work (List Value)
  | 0, _ => return []
  | fuel + 1, c => do
    match c with
    | .ref a =>
      match ← thingAt a with
      | .classOf _ bases _ => do
        let each ← bases.mapM (lineage fuel)
        let all := each.flatten
        let kept := all.zipIdx.filterMap fun (v, i) =>
          if (all.drop (i + 1)).any (sameKey v) then none else some v
        return c :: kept
      | _ => return [c]
    | .builtin n => do
      let rec parents : Nat → String → List Value
        | 0, _ => []
        | bound + 1, n => match parentKind n with
          | some p => .builtin p :: parents bound p
          | none => []
      return c :: parents 10 n
    | c => return [c]

/-- how deep classes may come from each other -/
def classDepth : Nat := 40

/-- what a class has under a name, itself or from the classes that it comes from -/
def classAttribute? (c : Value) (name : String) : Work (Option Value) := do
  for k in ← lineage classDepth c do
    match k with
    | .ref a =>
      match ← thingAt a with
      | .classOf _ _ attributes =>
        match attribute? name attributes with
        | some v => return some v
        | none => pure ()
      | _ => pure ()
    | _ => pure ()
  return none

/-- the class of an object of a program -/
def classOfObject? (v : Value) : Work (Option Value) := do
  match ← thing? v with
  | some (.instanceOf kind _) => return some kind
  | _ => return none

/-- the attributes of an object -/
def objectAttributes (v : Value) : Work (List (String × Value)) := do
  match ← thing? v with
  | some (.instanceOf _ attributes) => return attributes
  | _ => return []

/-- gives an object an attribute -/
def setObjectAttribute (v : Value) (name : String) (value : Value) : Work Unit := do
  match v, ← thing? v with
  | .ref a, some (.instanceOf kind attributes) => update a (.instanceOf kind (putAttribute name value attributes))
  | _, _ => pure ()

/-- the function of an object's class under a name -/
def special? (v : Value) (name : String) : Work (Option Value) := do
  match ← classOfObject? v with
  | some c => classAttribute? c name
  | none => return none

/-- whether a class comes from another one -/
def comesFrom (c other : Value) : Work Bool := do
  if sameKey other (.builtin "object") then return true
  else return (← lineage classDepth c).any (sameKey other)

/-- the class of a value -/
def classOf (v : Value) : Work Value := do
  match ← classOfObject? v with
  | some c => return c
  | none => return .builtin (← typeName v)

/-- whether a value belongs to a class, or to one of several -/
def isInstance : Nat → Value → Value → Work Bool
  | 0, _, _ => return false
  | fuel + 1, v, c => do
    match c with
    | .tuple items => items.anyM (isInstance fuel v)
    | c =>
      let own ← classOf v
      if ← comesFrom own c then return true
      else match own, c with
        | .builtin "bool", .builtin "int" => return true
        | .builtin "Counter", .builtin "dict" => return true
        | .builtin "defaultdict", .builtin "dict" => return true
        | .builtin "OrderedDict", .builtin "dict" => return true
        | .builtin "NoneType", .builtin "NoneType" => return true
        | .builtin "NoneType", .none => return true
        | _, _ => return false

/-! ## Exceptions -/

/-- the values that an exception was raised with -/
def exceptionArgs (e : Value) : Work (List Value) := do
  match attribute? "args" (← objectAttributes e) with
  | some (.tuple items) => return items
  | _ => return []

/-- whether a value is an exception -/
def isException (v : Value) : Work Bool := do
  match ← classOfObject? v with
  | some c => comesFrom c (.builtin "BaseException")
  | none => return false

/-- the name of the kind of an exception, as failures are shown -/
def exceptionName (e : Value) : Work String := do
  match ← classOfObject? e with
  | some (.builtin n) =>
    return match n with
      | "json.JSONDecodeError" => "json.decoder.JSONDecodeError"
      | "UnsupportedOperation" => "io.UnsupportedOperation"
      | n => n
  | some c => match ← thing? c with
    | some (.classOf n _ _) => return n
    | _ => return "Exception"
  | none => return "Exception"

/-! ## Files that are open -/

/-- a text with all ends of lines the same -/
def newLines : Characters → Characters
  | [] => []
  | '\r' :: '\n' :: o => '\n' :: newLines o
  | '\r' :: o => '\n' :: newLines o
  | c :: o => c :: newLines o

/-- what is left of an open file; `input` is what is left of the input of the program -/
def Opened.left (f : Opened) (input : Octets) : Characters :=
  if f.stream != some 0 then f.rest else if f.mode.contains 'b' then input else newLines (decode input)

/-- takes a line from a file; characters are counted up to a bound, if there is one -/
def takeFileLine (address : Nat) (bound : Option Nat) : Work Characters := do
  match ← thingAt address with
  | .file f =>
    let w ← get
    let rest := f.left w.input
    let line := rest.takeWhile (· != '\n')
    let line := line ++ (rest.drop line.length).take 1
    let line := match bound with
      | some n => line.take n
      | none => line
    let after := rest.drop line.length
    if f.stream == some 0 then modify fun w => { w with input := if f.mode.contains 'b' then after else encode after }
    else update address (.file { f with rest := after })
    return line
  | _ => return []

/-- takes all that is left of a file, or so many characters -/
def takeFileRest (address : Nat) (bound : Option Nat) : Work Characters := do
  match ← thingAt address with
  | .file f =>
    let w ← get
    let rest := f.left w.input
    let taken := match bound with
      | some n => rest.take n
      | none => rest
    let after := rest.drop taken.length
    if f.stream == some 0 then modify fun w => { w with input := if f.mode.contains 'b' then after else encode after }
    else update address (.file { f with rest := after })
    return taken
  | _ => return []

/-- a text as the value that reading a file comes to -/
def readValue (f : Opened) (o : Characters) : Value := if f.mode.contains 'b' then .bytes o else .text o

section

variable (call : Caller)

/-! ## Truth and size -/

/-- how many items a range has -/
def rangeLength (start stop step : Int) : Nat :=
  if 0 < step then ((stop - start + step - 1) / step).toNat
  else if step < 0 then ((start - stop - step - 1) / (-step)).toNat
  else 0

/-- the number of a range at a place -/
def rangeItem (start step : Int) (i : Nat) : Value := .int (start + step * i)

/-- how many items a value has -/
def lengthOf (v : Value) : Work Nat := do
  match v with
  | .text o => return o.length
  | .bytes o => return o.length
  | .tuple items => return items.length
  | .range a b c => return rangeLength a b c
  | .ref a =>
    match ← thingAt a with
    | .list items => return items.length
    | .dict _ _ entries => return entries.length
    | .set _ items => return items.length
    | .wrapped _ (.tuple items) _ => return items.length
    | _ => do
      match ← special? v "__len__" with
      | some f => match ← call f [v] [] with
        | .int n => return n.toNat
        | _ => typeError "'str' object cannot be interpreted as an integer"
      | none =>
        let name ← typeName v
        typeError s!"object of type '{name}' has no len()"
  | v => do
    let name ← typeName v
    typeError s!"object of type '{name}' has no len()"

/-- whether a value counts as true -/
def isTrue (v : Value) : Work Bool := do
  match v with
  | .none => return false
  | .bool b => return b
  | .int n => return n != 0
  | .real x => return !x.isZero
  | .text o => return !o.isEmpty
  | .bytes o => return !o.isEmpty
  | .tuple items => return !items.isEmpty
  | .range a b c => return rangeLength a b c != 0
  | .ref a =>
    match ← thingAt a with
    | .list items => return !items.isEmpty
    | .dict _ _ entries => return !entries.isEmpty
    | .set _ items => return !items.isEmpty
    | .wrapped _ (.tuple items) _ => return !items.isEmpty
    | .instanceOf .. => do
      match ← special? v "__bool__" with
      | some f => match ← call f [v] [] with
        | .bool b => return b
        | _ => return true
      | none => match ← special? v "__len__" with
        | some _ => return (← lengthOf call v) != 0
        | none => return true
    | _ => return true
  | _ => return true

/-! ## Being shown -/

/-- the name that the class of an object is shown by -/
def shownClass (c : Value) : Work String := do
  match c with
  | .builtin n => return n
  | c => match ← thing? c with
    | some (.classOf n _ _) => return "__main__." ++ n
    | _ => return "object"

mutual

/-- a value as it is written in a program -/
def displayed : Nat → Value → Work Characters
  | 0, _ => return "...".toList
  | fuel + 1, v => do
    match v with
    | .none => return "None".toList
    | .ellipsis => return "Ellipsis".toList
    | .unknown => return "NotImplemented".toList
    | .bool b => return (if b then "True" else "False").toList
    | .int n => return (toString n).toList
    | .real x => return realRepr x
    | .text o => return textRepr false o
    | .bytes o => return bytesRepr o
    | .tuple [only] => do return '(' :: (← displayed fuel only) ++ [',', ')']
    | .tuple items => do return '(' :: (← displayedAll fuel items) ++ [')']
    | .range a b c =>
      let step := if c == 1 then "" else s!", {c}"
      return s!"range({a}, {b}{step})".toList
    | .slice a b c => do return "slice(".toList ++ (← displayedAll fuel [a, b, c]) ++ [')']
    | .builtin n => do
      let kind ← typeName v
      return (if kind == "type" then s!"<class '{n}'>" else s!"<built-in function {n}>").toList
    | .method r n => do
      let kind ← typeName r
      return s!"<built-in method {n} of {kind} object at 0x7f0000000000>".toList
    | .bound _ _ => return "<bound method>".toList
    | .module n => return s!"<module '{n}'>".toList
    | .ref a =>
      match ← thingAt a with
      | .list items => do return '[' :: (← displayedAll fuel items) ++ [']']
      | .dict kind default entries => do
        let body := '\x7b' :: (← displayedEntries fuel entries) ++ ['\x7d']
        match kind with
        | "dict" => return body
        | "defaultdict" => do return "defaultdict(".toList ++ (← displayed fuel default) ++ ", ".toList ++ body ++ [')']
        | kind =>
          if entries.isEmpty then return (kind ++ "()").toList
          else return kind.toList ++ '(' :: body ++ [')']
      | .set frozen items =>
        if items.isEmpty then return (if frozen then "frozenset()" else "set()").toList
        else do
          let body := '\x7b' :: (← displayedAll fuel (setOrder items)) ++ ['\x7d']
          return if frozen then "frozenset(".toList ++ body ++ [')'] else body
      | .function f => return s!"<function {f.name} at 0x7f0000000000>".toList
      | .classOf n _ _ => return s!"<class '__main__.{n}'>".toList
      | .instanceOf c attributes => do
        match ← special? v "__repr__" with
        | some f => match ← call f [v] [] with
          | .text o => return o
          | _ => typeError "__repr__ returned non-string"
        | none =>
          if ← isException v then do
            let name ← typeName v
            let args ← exceptionArgs v
            return name.toList ++ '(' :: (← displayedAll fuel args) ++ [')']
          else match attribute? " fields" attributes with
            | some (.tuple names) => do
              let name ← typeName v
              let each ← names.mapM fun n => do
                match n with
                | .text n => do
                  let value := (attribute? (String.ofList n) attributes).getD .none
                  return n ++ '=' :: (← displayed fuel value)
                | _ => return []
              return name.toList ++ '(' :: (List.intersperse [',', ' '] each).flatten ++ [')']
            | _ => match c, attribute? "path" attributes with
              | .builtin "Path", some (.text o) => return "PosixPath(".toList ++ textRepr false o ++ [')']
              | c, _ => do
                let shown ← shownClass c
                return s!"<{shown} object at 0x7f0000000000>".toList
      | .found _ subject spot => do
        let o := ((spot.groupText? ⟨subject.toArray, 0⟩ 0).getD ((subject.drop spot.start).take (spot.place - spot.start)))
        return s!"<re.Match object; span=({spot.start}, {spot.place}), match=".toList ++ textRepr false o ++ ['>']
      | .wrapped kind (.tuple items) _ => do
        return kind.toList ++ ['(', '['] ++ (← displayedAll fuel items) ++ [']', ')']
      | .pattern source _ _ => return "re.compile(".toList ++ textRepr false source ++ [')']
      | _ => do
        let name ← typeName v
        return s!"<{name} object at 0x7f0000000000>".toList

/-- values as they are written in a program, with commas between them -/
def displayedAll : Nat → List Value → Work Characters
  | 0, _ => return []
  | _, [] => return []
  | fuel + 1, [v] => displayed fuel v
  | fuel + 1, v :: rest => do
    return (← displayed fuel v) ++ [',', ' '] ++ (← displayedAll fuel rest)

/-- entries as they are written in a program -/
def displayedEntries : Nat → List (Value × Value) → Work Characters
  | 0, _ => return []
  | _, [] => return []
  | fuel + 1, (k, v) :: rest => do
    let entry := (← displayed fuel k) ++ [':', ' '] ++ (← displayed fuel v)
    if rest.isEmpty then return entry else return entry ++ [',', ' '] ++ (← displayedEntries fuel rest)

end

/-- how deep values may lie in each other -/
def valueDepth : Nat := 100000

/-- a value as a text -/
def shown (v : Value) : Work Characters := do
  match v with
  | .text o => return o
  | .ref a =>
    match ← thingAt a with
    | .instanceOf c attributes => do
      match ← special? v "__str__" with
      | some f => match ← call f [v] [] with
        | .text o => return o
        | other => do
          let name ← typeName other
          typeError s!"__str__ returned non-string (type {name})"
      | none =>
        if ← isException v then
          if (← special? v "__repr__").isSome then displayed call valueDepth v
          else do
            let args ← exceptionArgs v
            let kind ← exceptionName v
            let isSystem ← comesFrom c (.builtin "OSError")
            match args with
            | [] => return []
            | [only] =>
              if kind == "KeyError" then displayed call valueDepth only
              else match only with
                | .text o => return o
                | only => match ← thing? only with
                  | some (.instanceOf ..) => displayed call valueDepth only
                  | _ => displayed call valueDepth only
            | [.int n, .text message] =>
              if isSystem then return s!"[Errno {n}] ".toList ++ message
              else displayed call valueDepth (.tuple args)
            | [.int n, .text message, name] =>
              if isSystem then return s!"[Errno {n}] ".toList ++ message ++ ": ".toList ++ (← displayed call valueDepth name)
              else displayed call valueDepth (.tuple args)
            | args => displayed call valueDepth (.tuple args)
        else match c, attribute? "path" attributes with
          | .builtin "Path", some (.text o) => return o
          | _, _ => displayed call valueDepth v
    | _ => displayed call valueDepth v
  | v => displayed call valueDepth v

/-! ## Being the same, and being less -/

mutual

/-- whether two values are equal -/
def areEqual : Nat → Value → Value → Work Bool
  | 0, _, _ => return false
  | fuel + 1, a, b => do
    match a, b with
    | .tuple x, .tuple y => if x.length == y.length then allEqual fuel x y else return false
    | .ref x, .ref y => do
      if x == y && !(← special? a "__eq__").isSome then return true
      else match ← thingAt x, ← thingAt y with
        | .list s, .list t => if s.length == t.length then allEqual fuel s t else return false
        | .dict _ _ s, .dict _ _ t =>
          if s.length != t.length then return false
          else s.allM fun (k, v) => do
            match entryFor? k t with
            | some w => areEqual fuel v w
            | none => return false
        | .set _ s, .set _ t => return s.length == t.length && s.all fun v => t.any (sameKey v)
        | .instanceOf c s, .instanceOf d t => do
          match ← special? a "__eq__" with
          | some f => do
            match ← call f [a, b] [] with
            | .unknown => return x == y
            | v => isTrue call v
          | none =>
            match attribute? " fields" s, attribute? "path" s, attribute? "path" t with
            | some (.tuple names), _, _ =>
              if !sameKey c d then return false
              else names.allM fun n => do
                match n with
                | .text n =>
                  areEqual fuel ((attribute? (String.ofList n) s).getD .none) ((attribute? (String.ofList n) t).getD .none)
                | _ => return true
            | _, some (.text p), some (.text q) => return sameKey c (.builtin "Path") && p == q
            | _, _, _ => return x == y
        | _, _ => return x == y
    | .range a b c, .range d e f =>
      let n := rangeLength a b c
      return n == rangeLength d e f && (n == 0 || (a == d && (n == 1 || c == f)))
    | .method r n, .method s m => return n == m && sameKey r s
    | .bound r f, .bound s g => return sameKey r s && sameKey f g
    | a, b => do
      match ← special? a "__eq__", ← special? b "__eq__" with
      | some f, _ => match ← call f [a, b] [] with
        | .unknown => return false
        | v => isTrue call v
      | none, some f => match ← call f [b, a] [] with
        | .unknown => return false
        | v => isTrue call v
      | none, none => return sameKey a b

/-- whether values are equal, one by one -/
def allEqual : Nat → List Value → List Value → Work Bool
  | 0, _, _ => return false
  | fuel + 1, a :: as, b :: bs => do
    if ← areEqual fuel a b then allEqual fuel as bs else return false
  | _, [], [] => return true
  | _, _, _ => return false

end

/-- the function of a class for a comparison, and for the comparison the other way round -/
def orderMethods (operator : String) : String × String :=
  match operator with
  | "<" => ("__lt__", "__gt__")
  | "<=" => ("__le__", "__ge__")
  | ">" => ("__gt__", "__lt__")
  | _ => ("__ge__", "__le__")

/-- whether an order satisfies a comparison -/
def ordered (operator : String) (o : Ordering) : Bool :=
  match operator with
  | "<" => o == .lt
  | "<=" => o != .gt
  | ">" => o == .gt
  | _ => o != .lt

/-- the order of texts -/
def textOrder : Characters → Characters → Ordering
  | [], [] => .eq
  | [], _ => .lt
  | _, [] => .gt
  | a :: as, b :: bs => if a == b then textOrder as bs else compare a.toNat b.toNat

mutual

/-- whether a comparison of two values holds -/
def compared : Nat → String → Value → Value → Work Bool
  | 0, _, _, _ => return false
  | fuel + 1, operator, a, b => do
    match a, b with
    | .text x, .text y => return ordered operator (textOrder x y)
    | .bytes x, .bytes y => return ordered operator (textOrder x y)
    | .tuple x, .tuple y => comparedAll fuel operator x y
    | a, b =>
      match int? a, int? b with
      | some m, some n => return ordered operator (compare m n)
      | _, _ => match real? a, real? b with
        | some x, some y => return ((x.order? y).map (ordered operator)).getD false
        | _, _ => do
          match ← thing? a, ← thing? b with
          | some (.list x), some (.list y) => comparedAll fuel operator x y
          | some (.set _ x), some (.set _ y) =>
            let within (p q : List Value) : Bool := p.all fun v => q.any (sameKey v)
            return match operator with
              | "<" => within x y && x.length < y.length
              | "<=" => within x y
              | ">" => within y x && y.length < x.length
              | _ => within y x
          | _, _ => do
            let (own, other) := orderMethods operator
            let tried (v w : Value) (name : String) : Work (Option Bool) := do
              match ← special? v name with
              | some f => match ← call f [v, w] [] with
                | .unknown => return none
                | r => some <$> isTrue call r
              | none => return none
            match ← tried a b own with
            | some r => return r
            | none => match ← tried b a other with
              | some r => return r
              | none => do
                let left ← typeName a
                let right ← typeName b
                typeError s!"'{operator}' not supported between instances of '{left}' and '{right}'"

/-- whether a comparison of lists holds: the first items that differ decide it -/
def comparedAll : Nat → String → List Value → List Value → Work Bool
  | 0, _, _, _ => return false
  | fuel + 1, operator, a :: as, b :: bs => do
    if ← areEqual call fuel a b then comparedAll fuel operator as bs else compared fuel operator a b
  | _, operator, [], [] => return ordered operator .eq
  | _, operator, [], _ => return ordered operator .lt
  | _, operator, _, [] => return ordered operator .gt

end

/-- the values of a list in order; those that are equal stay as they stand -/
def sortedBy : Nat → List (Value × Value) → Work (List (Value × Value))
  | 0, items => return items
  | fuel + 1, items => do
    if items.length ≤ 1 then return items
    else
      let half := items.length / 2
      let first ← sortedBy fuel (items.take half)
      let second ← sortedBy fuel (items.drop half)
      merge (items.length + 1) first second []
where
  /-- joins two lists that are in order -/
  merge : Nat → List (Value × Value) → List (Value × Value) → List (Value × Value) → Work (List (Value × Value))
    | 0, a, b, done => return done.reverse ++ a ++ b
    | _, [], b, done => return done.reverse ++ b
    | _, a, [], done => return done.reverse ++ a
    | fuel + 1, a :: as, b :: bs, done => do
      if ← compared call valueDepth "<" b.1 a.1 then merge fuel (a :: as) bs (b :: done)
      else merge fuel as (b :: bs) (a :: done)

/-! ## Going through items -/

/-- what goes through the items of a value -/
def startItems (v : Value) : Work Value := do
  match v with
  | .text _ => allocate (.walk v 0)
  | .tuple items => allocate (.iterator items)
  | .range .. => allocate (.walk v 0)
  | .bytes o => allocate (.iterator (o.map fun c => .int c.toNat))
  | .ref a =>
    match ← thingAt a with
    | .list _ => allocate (.walk v 0)
    | .dict _ _ entries => allocate (.iterator (entries.map Prod.fst))
    | .set _ items => allocate (.iterator (setOrder items))
    | .iterator _ => return v
    | .walk .. => return v
    | .counter .. => return v
    | .file _ => return v
    | .wrapped _ (.tuple items) _ => allocate (.iterator items)
    | _ => do
      match ← special? v "__iter__" with
      | some f => call f [v] []
      | none => match ← special? v "__getitem__" with
        | some _ => allocate (.walk v 0)
        | none => do
          match attribute? " fields" (← objectAttributes v) with
          | some (.tuple names) => do
            let attributes ← objectAttributes v
            allocate (.iterator (names.map fun n => match n with
              | .text n => (attribute? (String.ofList n) attributes).getD .none
              | _ => .none))
          | _ => do
            let name ← typeName v
            typeError s!"'{name}' object is not iterable"
  | v => do
    let name ← typeName v
    typeError s!"'{name}' object is not iterable"

/-- the next item of what goes through items; none at its end -/
def nextItem (v : Value) : Work (Option Value) := do
  match v with
  | .ref a =>
    match ← thingAt a with
    | .iterator [] => return none
    | .iterator (item :: rest) => do
      update a (.iterator rest)
      return some item
    | .walk source i => do
      let item? : Option Value ← match source with
        | .text o => pure ((o[i]?).map fun c => .text [c])
        | .range start stop step =>
          pure (if i < rangeLength start stop step then some (rangeItem start step i) else none)
        | .ref l => match ← thingAt l with
          | .list items => pure items[i]?
          | _ => do
            match ← special? source "__getitem__" with
            | some f => tryCatch (some <$> call f [source, .int i] []) fun
                | .raised e trace => do
                  if (← exceptionName e) == "IndexError" then return none else throw (.raised e trace)
                | other => throw other
            | none => pure none
        | _ => pure none
      if item?.isSome then update a (.walk source (i + 1))
      return item?
    | .counter next step => do
      match next, step with
      | .int n, .int m => update a (.counter (.int (n + m)) step)
      | _, _ => pure ()
      return some next
    | .file f => do
      let o ← takeFileLine a none
      if o.isEmpty then return none else return some (readValue f o)
    | _ => do
      match ← special? v "__next__" with
      | some f => tryCatch (some <$> call f [v] []) fun
          | .raised e trace => do
            if (← exceptionName e) == "StopIteration" then return none else throw (.raised e trace)
          | other => throw other
      | none => do
        let name ← typeName v
        typeError s!"'{name}' object is not an iterator"
  | v => do
    let name ← typeName v
    typeError s!"'{name}' object is not an iterator"

/-- all items that are left; so many at most -/
def restItems : Nat → Value → Work (List Value)
  | 0, _ => throw .stuck
  | fuel + 1, v => do
    match ← nextItem call v with
    | none => return []
    | some item => return item :: (← restItems fuel v)

/-- how many items are gone through at most -/
def itemLimit : Nat := 1000000

/-- the items of a value -/
def itemsOf (v : Value) : Work (List Value) := do
  match v with
  | .text o => return o.map fun c => .text [c]
  | .tuple items => return items
  | .bytes o => return o.map fun c => .int c.toNat
  | .range a b c => return (List.range (rangeLength a b c)).map (rangeItem a c)
  | .ref a =>
    match ← thingAt a with
    | .list items => return items
    | .dict _ _ entries => return entries.map Prod.fst
    | .set _ items => return setOrder items
    | .iterator items => do
      update a (.iterator [])
      return items
    | _ => do restItems call itemLimit (← startItems call v)
  | v => do restItems call itemLimit (← startItems call v)

end

end ScriptBridge.Shell.BlockScript
