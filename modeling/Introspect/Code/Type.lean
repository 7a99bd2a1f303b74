import Introspect.Code.Grammar

/-!
# The grammar of types

Reads a type from token trees, and with it the paths, bounds and constant expressions that types are
made of. Of a type that has been read two things are kept: the trees that are written for it, and
what its outermost form is. In the trees written for generic arguments the lifetimes come first,
whatever their place was.

* `typeAt` reads a type; `TypeForm.optionArgument?` tells the types that are spelled `Option<T>`.
* `pathReader` reads a path, and `segmentReader` one segment of a path.
-/

namespace Introspect.Code

/-! ## What is kept -/

/-- How the last segment of a path is applied to arguments. -/
inductive Application where
  /-- No arguments. -/
  | bare
  /-- Arguments in angle brackets; when there is just one, and it is a type, its trees. -/
  | angled (sole? : Option (List Tree))
  /-- Arguments in round brackets, as of a function. -/
  | called
  deriving Repr

/-- A path that has been read. -/
structure PathForm where
  /-- The trees that are written for it. -/
  tokens : List Tree
  /-- It begins with two colons. -/
  isGlobal : Bool
  /-- Its segments, without their arguments. -/
  segments : List String
  /-- No segment before the last has arguments. -/
  isPlainBefore : Bool
  /-- The arguments of the last segment. -/
  application : Application
  deriving Repr

namespace PathForm

/-- No segment has arguments. -/
def isPlain (path : PathForm) : Bool :=
  path.isPlainBefore &&
    match path.application with
    | .bare => true
    | _ => false

/-- The path is one segment that is not applied as a function: a name that may be bound. -/
def isBindable (path : PathForm) : Bool :=
  !path.isGlobal && path.segments.length == 1 &&
    match path.application with
    | .called => false
    | _ => true

/-- The path with one more segment. -/
def extend (path : PathForm) (segment : PathForm) : PathForm :=
  { tokens := path.tokens ++ marks "::" ++ segment.tokens
    isGlobal := path.isGlobal
    segments := path.segments ++ segment.segments
    isPlainBefore := path.isPlain
    application := segment.application }

/-- The word that a path is, if it is one word and nothing else. -/
def word? (path : PathForm) : Option String :=
  match path.segments with
  | [word] => if path.isGlobal || !path.isPlain then none else some word
  | _ => none

end PathForm

/-- The outermost form of a type, as far as what comes next may depend on it. -/
inductive TypeKind where
  /-- A path without a type in front of it. -/
  | path (path : PathForm)
  /-- A bound that stands alone for the types that meet it. -/
  | bound
  /-- A type in round brackets. -/
  | bracketed
  | other
  deriving Repr

/-- A type that has been read. -/
structure TypeForm where
  /-- The trees that are written for it. -/
  tokens : List Tree
  kind : TypeKind
  deriving Repr

/-- The `T` of a type spelled `Option<T>`, whatever path leads to `Option`. -/
def TypeForm.optionArgument? (type : TypeForm) : Option (List Tree) :=
  match type.kind with
  -- only the last segment matters, and what it is applied to
  | .path path =>
    if path.segments.getLast? == some "Option" then
      match path.application with
      | .angled sole? => sole?
      | _ => none
    else none
  | _ => none

/-! ## Generic arguments -/

/-- An argument in angle brackets. -/
structure Argument where
  isLifetime : Bool
  tokens : List Tree
  /-- The trees of the argument, if it is a type. -/
  type? : Option (List Tree)
  /-- A comma follows it. -/
  hasComma : Bool

/-- The comma after an argument, where there is one. -/
def Argument.comma (argument : Argument) : List Tree := if argument.hasComma then marks "," else []

/-- Writes arguments that are not lifetimes, the first of them apart from what goes before it. -/
def writeArguments (isApart : Bool) : List Argument → List Tree
  | [] => []
  -- a comma is written where the argument before had none of its own
  | argument :: rest =>
    (if isApart then [] else marks ",") ++ argument.tokens ++ argument.comma ++
      writeArguments argument.hasComma rest

/-- The trees of arguments in angle brackets, lifetimes first. -/
def angledTokens (arguments : List Argument) : List Tree :=
  let lifetimes := arguments.filter (·.isLifetime)
  marks "<" ++ lifetimes.flatMap (fun a => a.tokens ++ a.comma) ++
    writeArguments (lifetimes.getLast?.all (·.hasComma)) (arguments.filter (!·.isLifetime)) ++
    marks ">"

/-- The only argument, if there is just one and it is a type. -/
def soleType? : List Argument → Option (List Tree)
  | [argument] => argument.type?
  | _ => none

/-! ## Small readers -/

/-- Words with which a path may begin though they name no thing. -/
def pathWords : List String := ["super", "self", "crate", "try"]

/-- Whether a segment of a path comes next. -/
def seesSegment (trees : List Tree) : Bool :=
  seesName trees || seesAnyWord ("Self" :: pathWords) trees

/-- Whether the first word of a type or of a plain path comes next. -/
def seesPathWord (trees : List Tree) : Bool :=
  seesName trees || seesAnyWord ["super", "self", "Self", "crate"] trees

/-- Whether a bound may come next. -/
def seesBound (trees : List Tree) : Bool :=
  seesSomeWord trees || sees "::" trees || sees "?" trees || seesLifetime trees ||
    seesGroup .round trees

/-- Whether a bound, which may be `const`, may come next. -/
def seesConstBound (trees : List Tree) : Bool :=
  seesBound trees || seesGroup .square trees || seesWord "const" trees

/-- Whether two colons and then a certain tree come next. -/
def seesAfterColons (test : List Tree → Bool) (trees : List Tree) : Bool :=
  sees "::" trees && test (trees.drop 2)

/-- Whether a list of bounds ends here. -/
def endsBounds (trees : List Tree) : Bool :=
  trees.isEmpty || seesGroup .curly trees || sees "," trees || sees ";" trees ||
    (sees ":" trees && !sees "::" trees) || sees "=" trees

/-- A path whose segments are words: no arguments, and no keyword that could not lead a path. -/
def plainPath : Parser PathForm := do
  let global ← Parser.operator? "::"
  let first ← segment
  let start : PathForm :=
    { tokens := global ++ [.word first], isGlobal := !global.isEmpty, segments := [first]
      isPlainBefore := true, application := .bare }
  more start ((← get).length + 1)
where
  /-- One word of the path. -/
  segment : Parser String := do
    guard (seesPathWord (← get))
    Parser.someWord
  /-- The words that follow. -/
  more (path : PathForm) : Nat → Parser PathForm
    | 0 => failure
    | rounds + 1 => do
      if !sees "::" (← get) then return path
      let _ ← Parser.operator "::"
      let word ← segment
      more (path.extend ⟨[.word word], false, [word], true, .bare⟩) rounds

/-- Operators that stand between two expressions, each before those that begin it. -/
def binaryOperators : List String :=
  ["<<=", ">>=", "&&", "||", "==", "!=", "<=", ">=", "<<", ">>", "+=", "-=", "*=", "/=", "%=",
   "^=", "&=", "|=", "+", "-", "*", "/", "%", "^", "&", "|", "<", ">", "="]

/-- Whether an expression ends here, or a block begins. -/
def endsExpression (trees : List Tree) : Bool :=
  trees.isEmpty || seesGroup .curly trees || sees "," trees || sees ";" trees || sees "=>" trees

/-! ## Types, paths, bounds and expressions

Every reader below takes the depth to which it may go first. `depthOf` gives enough for any trees.
-/

mutual

/-- A type. A sum of bounds is read only where one may stand. -/
def typeAt : Nat → Bool → Parser TypeForm
  | 0, _ => failure
  | depth + 1, allowsSum => do
    let binder ← binderAt depth
    let trees ← get
    -- Only a function type or a bound may be quantified over lifetimes.
    if !binder.isEmpty then
      guard (seesPathWord trees || seesAnyWord ["fn", "unsafe", "extern"] trees)
    if seesGroup .round trees then
      bracketedTypeAt depth allowsSum
    else if seesAnyWord ["fn", "unsafe", "extern"] trees then
      return ⟨binder ++ (← functionTypeAt depth), .other⟩
    else if sees "<" trees then
      return ⟨← qualifiedPathAt depth false, .other⟩
    else if seesPathWord trees || sees "::" trees then
      let path ← typePathAt depth
      let trees ← get
      -- A path with an exclamation mark calls for code to be put in its place.
      if sees "!" trees && !sees "!=" trees && path.isPlain then
        return ⟨path.tokens ++ (← Parser.operator "!") ++ (← Parser.anyGroup), .other⟩
      else if !binder.isEmpty || (allowsSum && sees "+" trees) then
        let more ← if allowsSum then moreBoundsAt depth false else pure []
        return ⟨binder ++ path.tokens ++ more, if more.isEmpty then .bound else .other⟩
      else
        return ⟨path.tokens, .path path⟩
    else if seesWord "dyn" trees then
      let dyn ← Parser.word "dyn"
      let star ← Parser.operator? "*"
      return ⟨dyn ++ star ++ (← objectBoundsAt depth allowsSum), .other⟩
    else if seesGroup .square trees then
      return ⟨← Parser.group .square (sliceTypeAt depth), .other⟩
    else if sees "*" trees then
      let star ← Parser.operator "*"
      let access ← if seesWord "const" (← get) then Parser.word "const" else Parser.word "mut"
      return ⟨star ++ access ++ (← typeAt depth false).tokens, .other⟩
    else if sees "&" trees then
      let reference ← Parser.operator "&"
      let lifetime ← Parser.lifetime?
      let mutable ← Parser.word? "mut"
      return ⟨reference ++ lifetime ++ mutable ++ (← typeAt depth false).tokens, .other⟩
    else if sees "!" trees && !sees "!=" trees then
      return ⟨← Parser.operator "!", .other⟩
    else if seesWord "impl" trees then
      let word ← Parser.word "impl"
      return ⟨word ++ (← implBoundsAt depth allowsSum), .other⟩
    else if seesWord "_" trees then
      return ⟨← Parser.word "_", .other⟩
    else if seesLifetime trees then
      return ⟨← objectBoundsAt depth allowsSum, .other⟩
    else
      failure

/-- The inside of square brackets: a slice, or an array with its length. -/
def sliceTypeAt : Nat → Parser (List Tree)
  | 0 => failure
  | depth + 1 => do
    let element ← typeAt depth true
    if sees ";" (← get) then
      let semicolon ← Parser.operator ";"
      return element.tokens ++ semicolon ++ (← expressionAt depth true)
    else
      return element.tokens

/-- A type that begins with a group in round brackets: a tuple, a type in brackets, or a sum whose
first bound is in brackets. -/
def bracketedTypeAt : Nat → Bool → Parser TypeForm
  | 0, _ => failure
  | depth + 1, allowsSum => do
    let content ← Parser.within .round fun trees => some (trees, [])
    let written (tokens : List Tree) : List Tree := [.group .round tokens]
    if content.isEmpty then
      return ⟨written [], .other⟩
    else if seesLifetime content then
      return ⟨written (← Parser.readAll (objectBoundsAt depth true) content), .bracketed⟩
    else if sees "?" content then
      let first := written (← Parser.readAll (traitBoundAt depth false) content)
      let more ← strictBoundsAt depth
      return ⟨first ++ more, if more.isEmpty then .bound else .other⟩
    else
      let (first, rest) ← typeAt depth true content
      if sees "," rest then
        -- what follows the first item: a comma each time, and another item unless it was the last
        let items : Parser (List Tree) := Parser.toEnd do
          let comma ← Parser.operator ","
          if (← get).isEmpty then return comma
          return comma ++ (← typeAt depth true).tokens
        return ⟨written (first.tokens ++ (← Parser.readAll items rest)), .other⟩
      else
        guard rest.isEmpty
        let bracketed := written first.tokens
        let isBound := match first.kind with
          | .path _ => true
          | .bound => true
          | _ => false
        if allowsSum && isBound && sees "+" (← get) then
          return ⟨bracketed ++ (← strictBoundsAt depth), .other⟩
        else
          return ⟨bracketed, .bracketed⟩

/-- Bounds that follow others, each after a plus. -/
def strictBoundsAt : Nat → Parser (List Tree)
  | 0 => failure
  | depth + 1 => do
    if sees "+" (← get) then
      let plus ← Parser.operator "+"
      let (bound, _) ← boundAt depth false false
      return plus ++ bound ++ (← strictBoundsAt depth)
    else
      return []

/-- Bounds that follow others, each after a plus; a plus may stand at the end. -/
def moreBoundsAt : Nat → Bool → Parser (List Tree)
  | 0, _ => failure
  | depth + 1, allowsConst => do
    if sees "+" (← get) then
      let plus ← Parser.operator "+"
      let trees ← get
      -- a plus at the end adds no bound
      if if allowsConst then seesConstBound trees else seesBound trees then
        let (bound, _) ← boundAt depth allowsConst allowsConst
        return plus ++ bound ++ (← moreBoundsAt depth allowsConst)
      else
        return plus
    else
      return []

/-- The bounds of an object type; one of them at least is not a lifetime. -/
def objectBoundsAt : Nat → Bool → Parser (List Tree)
  | 0, _ => failure
  | depth + 1, allowsSum => do
    let (first, isTrait) ← boundAt depth false false
    let more ← if allowsSum then moreBoundsAt depth false else pure []
    -- Among plus signs and lifetimes any other tree belongs to a trait.
    guard (isTrait || more.any fun tree => !(tree matches .mark '+' _ | .lifetime _))
    return first ++ more

/-- The bounds of an unnamed type; one of them at least is not a lifetime. -/
def implBoundsAt : Nat → Bool → Parser (List Tree)
  | 0, _ => failure
  | depth + 1, allowsSum => do
    let (first, isTrait) ← boundAt depth true true
    let more ← if allowsSum then moreBoundsAt depth true else pure []
    guard (isTrait || more.any fun tree => !(tree matches .mark '+' _ | .lifetime _))
    return first ++ more

/-- A bound, and whether it is a trait. -/
def boundAt : Nat → Bool → Bool → Parser (List Tree × Bool)
  | 0, _, _ => failure
  | depth + 1, allowsConst, allowsUse => do
    let trees ← get
    if seesLifetime trees then
      return (← Parser.lifetime, false)
    else if seesWord "use" trees then
      guard allowsUse
      let word ← Parser.word "use"
      let names ← Parser.operator "<"
      let names := names ++ (← Parser.separated "," (sees ">") do
        if seesLifetime (← get) then Parser.lifetime
        else if seesWord "Self" (← get) then Parser.word "Self"
        else return [.word (← Parser.name)])
      return (word ++ names ++ (← Parser.operator ">"), false)
    else if seesGroup .round trees then
      return (← Parser.group .round (traitBoundAt depth allowsConst), true)
    else
      return (← traitBoundAt depth allowsConst, true)

/-- A bound that is a trait. -/
def traitBoundAt : Nat → Bool → Parser (List Tree)
  | 0, _ => failure
  | depth + 1, allowsConst => do
    let binder ← binderAt depth
    let const ←
      if seesGroup .square (← get) then Parser.group .square (Parser.word "const")
      else Parser.word? "const"
    guard (const.isEmpty || allowsConst)
    let maybe ← Parser.operator? "?"
    -- the lifetimes may be given after the question mark too
    let late ← if binder.isEmpty && !maybe.isEmpty then binderAt depth else pure []
    let path ← pathAt depth false
    let path ← callsAt depth path
    return binder ++ const ++ maybe ++ late ++ path.tokens

/-- The lifetimes that a type or a bound is quantified over, if there are any. -/
def binderAt : Nat → Parser (List Tree)
  | 0 => failure
  | depth + 1 => do
    if seesWord "for" (← get) then
      let word ← Parser.word "for"
      let opening ← Parser.operator "<"
      let lifetimes ← Parser.separated "," (sees ">") do
        let attributes ← attributesAt depth
        return attributes ++ (← Parser.lifetime)
      return word ++ opening ++ lifetimes ++ (← Parser.operator ">")
    else
      return []

/-- The type of a function. -/
def functionTypeAt : Nat → Parser (List Tree)
  | 0 => failure
  | depth + 1 => do
    let unsafety ← Parser.word? "unsafe"
    let convention ←
      if seesWord "extern" (← get) then
        let word ← Parser.word "extern"
        match ← get with
        | .literal text :: _ =>
          -- only a text gives the convention
          if text.toList.head?.any fun c => c == '"' || c == 'r' then
            pure (word ++ (← Parser.literal))
          else pure word
        | _ => pure word
      else pure []
    let word ← Parser.word "fn"
    let inputs ← Parser.group .round (Parser.toEnd (functionInputAt depth))
    return unsafety ++ convention ++ word ++ inputs ++ (← resultAt depth)

/-- One parameter in the type of a function, with the comma after it. -/
def functionInputAt : Nat → Parser (List Tree)
  | 0 => failure
  | depth + 1 => do
    let attributes ← attributesAt depth
    let trees ← get
    let isNamed := (seesName trees || seesWord "_" trees || seesWord "self" trees) &&
      sees ":" (trees.drop 1) && !sees "::" (trees.drop 1)
    let named ←
      if isNamed then
        let word ← Parser.someWord
        pure (Tree.word word :: (← Parser.operator ":"))
      else pure []
    if sees "..." (← get) then
      let dots ← Parser.operator "..."
      let comma ← Parser.operator? ","
      -- dots stand for any number of further inputs, and come last
      guard (← get).isEmpty
      return attributes ++ named ++ dots ++ comma
    else
      let item := attributes ++ named ++ (← typeAt depth true).tokens
      if (← get).isEmpty then return item
      return item ++ (← Parser.operator ",")

/-- The result of a function, if it is stated. -/
def resultAt : Nat → Parser (List Tree)
  | 0 => failure
  | depth + 1 => do
    if sees "->" (← get) then
      let arrow ← Parser.operator "->"
      return arrow ++ (← typeAt depth false).tokens
    else
      return []

/-- A path; in an expression, angle brackets need two colons before them. -/
def pathAt : Nat → Bool → Parser PathForm
  | 0, _ => failure
  | depth + 1, inExpression => do
    let global ← Parser.operator? "::"
    let first ← segmentAt depth inExpression
    let start :=
      { first with tokens := global ++ first.tokens, isGlobal := !global.isEmpty }
    moreSegmentsAt depth inExpression start

/-- The segments that follow others. -/
def moreSegmentsAt : Nat → Bool → PathForm → Parser PathForm
  | 0, _, _ => failure
  | depth + 1, inExpression, path => do
    let trees ← get
    -- round brackets after two colons are the inputs of a function, not a segment
    if sees "::" trees && !seesAfterColons (seesGroup .round) trees then
      let _ ← Parser.operator "::"
      let segment ← segmentAt depth inExpression
      moreSegmentsAt depth inExpression (path.extend segment)
    else
      return path

/-- One segment of a path. -/
def segmentAt : Nat → Bool → Parser PathForm
  | 0, _ => failure
  | depth + 1, inExpression => do
    let trees ← get
    guard (seesSegment trees)
    let word ← Parser.someWord
    let bare : PathForm := ⟨[.word word], false, [word], true, .bare⟩
    -- words that lead a path take no arguments
    if seesAnyWord pathWords trees then return bare
    let trees ← get
    let isApplied := (!inExpression && sees "<" trees && !sees "<=" trees) ||
      seesAfterColons (sees "<") trees
    if isApplied then
      let colons ← Parser.operator? "::"
      let arguments ← angledAt depth
      return { bare with
        tokens := bare.tokens ++ colons ++ angledTokens arguments
        application := .angled (soleType? arguments) }
    else
      return bare

/-- Arguments in angle brackets. -/
def angledAt : Nat → Parser (List Argument)
  | 0 => failure
  | depth + 1 => do
    let _ ← Parser.operator "<"
    let arguments ← argumentsAt depth
    let _ ← Parser.operator ">"
    return arguments

/-- Arguments with commas between them. -/
def argumentsAt : Nat → Parser (List Argument)
  | 0 => failure
  | depth + 1 => do
    if sees ">" (← get) then return []
    let argument ← argumentAt depth
    if sees ">" (← get) then return [argument]
    let _ ← Parser.operator ","
    return { argument with hasComma := true } :: (← argumentsAt depth)

/-- One argument in angle brackets: a lifetime, a constant, a type, or a name that is bound. -/
def argumentAt : Nat → Parser Argument
  | 0 => failure
  | depth + 1 => do
    let trees ← get
    -- a lifetime before a plus begins the bounds of an object type
    if seesLifetime trees && !sees "+" (trees.drop 1) then
      return ⟨true, ← Parser.lifetime, none, false⟩
    else if seesLiteral trees || seesGroup .curly trees then
      return ⟨false, ← constantAt depth, none, false⟩
    else
      -- A name that is bound reads as a type until the mark after it is seen.
      let type ← typeAt depth true
      let isBindable := match type.kind with
        | .path path => path.isBindable
        | _ => false
      let trees ← get
      if isBindable && sees "=" trees then
        let equals ← Parser.operator "="
        let trees ← get
        let bound ←
          if seesLiteral trees || seesGroup .curly trees then constantAt depth
          else pure (← typeAt depth true).tokens
        return ⟨false, type.tokens ++ equals ++ bound, none, false⟩
      else if isBindable && sees ":" trees then
        let colon ← Parser.operator ":"
        let bounds ← boundListAt depth fun trees => sees "," trees || sees ">" trees
        return ⟨false, type.tokens ++ colon ++ bounds, none, false⟩
      else
        return ⟨false, type.tokens, some type.tokens, false⟩

/-- Bounds up to a test, a plus between two of them. -/
def boundListAt : Nat → (List Tree → Bool) → Parser (List Tree)
  | 0, _ => failure
  | depth + 1, stop =>
    Parser.separated "+" stop do return (← boundAt depth true false).1

/-- A constant that stands for a generic argument: a literal, a block or a name. -/
def constantAt : Nat → Parser (List Tree)
  | 0 => failure
  | depth + 1 => do
    let trees ← get
    if seesLiteral trees then Parser.literal
    else if seesName trees then return [.word (← Parser.someWord)]
    else blockAt depth

/-- The path of a type, which may be applied as a function. -/
def typePathAt : Nat → Parser PathForm
  | 0 => failure
  | depth + 1 => do
    let path ← pathAt depth false
    callsAt depth path

/-- Arguments in round brackets after a path whose last segment has none. -/
def callsAt : Nat → PathForm → Parser PathForm
  | 0, _ => failure
  | depth + 1, path => do
    let trees ← get
    let isBare := path.application matches .bare
    -- arguments in angle brackets leave no room for inputs
    if isBare && (seesGroup .round trees || seesAfterColons (seesGroup .round) trees) then
      let _ ← Parser.operator? "::"
      let inputs ← Parser.group .round
        (Parser.commaSeparated do return (← typeAt depth true).tokens)
      let arrow ← Parser.operator? "->"
      let result ←
        if arrow.isEmpty then pure ⟨[], .bracketed⟩ else typeAt depth false
      let called : PathForm :=
        { path with
          tokens := path.tokens ++ inputs ++ arrow ++ result.tokens, application := .called }
      -- A result that is not in brackets has taken the segments that follow for its own.
      if result.kind matches .bracketed then moreSegmentsAt depth false called else return called
    else
      return path

/-- A path that begins with a type in angle brackets. -/
def qualifiedPathAt : Nat → Bool → Parser (List Tree)
  | 0, _ => failure
  | depth + 1, inExpression => do
    let opening ← Parser.operator "<"
    let self ← typeAt depth true
    let trait ←
      if seesWord "as" (← get) then
        let word ← Parser.word "as"
        pure (word ++ (← typePathAt depth).tokens)
      else pure []
    let closing ← Parser.operator ">"
    let colons ← Parser.operator "::"
    let first ← segmentAt depth inExpression
    let path ← moreSegmentsAt depth inExpression first
    return opening ++ self.tokens ++ trait ++ closing ++ colons ++ path.tokens

/-- Attributes before a thing. -/
def attributesAt : Nat → Parser (List Tree)
  | 0 => failure
  | depth + 1 => do
    if sees "#" (← get) then
      let sign ← Parser.operator "#"
      let inside ← Parser.group .square (attributeContentAt depth)
      return sign ++ inside ++ (← attributesAt depth)
    else
      return []

/-- The inside of an attribute: a path alone, with a group, or with a value. -/
def attributeContentAt : Nat → Parser (List Tree)
  | 0 => failure
  | depth + 1 => do
    let path ←
      if seesWord "unsafe" (← get) then Parser.word "unsafe"
      else pure (← plainPath).tokens
    let trees ← get
    match trees with
    | .group _ _ :: _ => return path ++ (← Parser.anyGroup)
    | _ =>
      if sees "=" trees then
        let equals ← Parser.operator "="
        return path ++ equals ++ (← expressionAt depth true)
      else
        return path

/-- An expression. Where a block comes next, a path does not take it for the parts of a value. -/
def expressionAt : Nat → Bool → Parser (List Tree)
  | 0, _ => failure
  | depth + 1, allowsParts => do
    -- a range may have no beginning
    if sees ".." (← get) then
      moreOperandsAt depth allowsParts
    else
      let first ← unaryAt depth allowsParts
      return first ++ (← moreOperandsAt depth allowsParts)

/-- Operators and the operands that follow them. -/
def moreOperandsAt : Nat → Bool → Parser (List Tree)
  | 0, _ => failure
  | depth + 1, allowsParts => do
    let trees ← get
    if sees "=>" trees then
      return []
    else if sees ".." trees then
      -- the longer operator is tried first
      let range ← Parser.operator (if sees "..=" trees then "..=" else "..")
      if endsExpression (← get) then return range
      let operand ← unaryAt depth allowsParts
      return range ++ operand ++ (← moreOperandsAt depth allowsParts)
    else if seesWord "as" trees then
      let word ← Parser.word "as"
      let type ← typeAt depth false
      return word ++ type.tokens ++ (← moreOperandsAt depth allowsParts)
    else
      match binaryOperators.find? (sees · trees) with
      | some text =>
        let operator ← Parser.operator text
        let operand ← unaryAt depth allowsParts
        return operator ++ operand ++ (← moreOperandsAt depth allowsParts)
      | none => return []

/-- An operand with the operators before it. -/
def unaryAt : Nat → Bool → Parser (List Tree)
  | 0, _ => failure
  | depth + 1, allowsParts => do
    let trees ← get
    if sees "&" trees then
      let reference ← Parser.operator "&"
      let mutable ← Parser.word? "mut"
      return reference ++ mutable ++ (← unaryAt depth allowsParts)
    else
      match ["*", "!", "-"].find? (sees · trees) with
      | some text =>
        let operator ← Parser.operator text
        return operator ++ (← unaryAt depth allowsParts)
      | none =>
        let operand ← operandAt depth allowsParts
        return operand ++ (← trailersAt depth)

/-- What may follow an operand: calls, indices, members and question marks. -/
def trailersAt : Nat → Parser (List Tree)
  | 0 => failure
  | depth + 1 => do
    let trees ← get
    if seesGroup .round trees then
      let call ← Parser.group .round (Parser.commaSeparated (expressionAt depth true))
      return call ++ (← trailersAt depth)
    else if seesGroup .square trees then
      let index ← Parser.group .square (expressionAt depth true)
      return index ++ (← trailersAt depth)
    else if sees "?" trees then
      let mark ← Parser.operator "?"
      return mark ++ (← trailersAt depth)
    else if sees "." trees && !sees ".." trees then
      let dot ← Parser.operator "."
      let member ←
        match ← get with
        -- members of a tuple go by numbers
        | .literal _ :: _ => Parser.literal
        | trees =>
          if seesWord "await" trees then Parser.word "await"
          -- a member that is called may have arguments of its own
          else if seesGroup .round (trees.drop 1) || seesAfterColons (sees "<") (trees.drop 1) then
            pure (← segmentAt depth true).tokens
          else pure [.word (← Parser.name)]
      return dot ++ member ++ (← trailersAt depth)
    else
      return []

/-- An operand: a literal, a group, a block, or what a path names. -/
def operandAt : Nat → Bool → Parser (List Tree)
  | 0, _ => failure
  | depth + 1, allowsParts => do
    let trees ← get
    if seesLiteral trees then
      Parser.literal
    else if seesGroup .round trees then
      Parser.group .round (Parser.commaSeparated (expressionAt depth true))
    else if seesGroup .square trees then
      Parser.group .square (listAt depth)
    else if seesGroup .curly trees then
      blockAt depth
    else if seesAnyWord ["unsafe", "const", "loop"] trees then
      let word ← Parser.someWord
      return .word word :: (← blockAt depth)
    else if seesWord "if" trees then
      choiceAt depth
    else if sees "<" trees then
      qualifiedPathAt depth true
    else
      let path ← pathAt depth true
      let trees ← get
      if sees "!" trees && !sees "!=" trees && path.isPlain then
        return path.tokens ++ (← Parser.operator "!") ++ (← Parser.anyGroup)
      else if allowsParts && seesGroup .curly trees then
        return path.tokens ++ (← Parser.group .curly (Parser.commaSeparated (partAt depth)))
      else
        return path.tokens

/-- The inside of a list: items, or one item and how often it is repeated. -/
def listAt : Nat → Parser (List Tree)
  | 0 => failure
  | depth + 1 => do
    if (← get).isEmpty then return []
    let first ← expressionAt depth true
    if sees ";" (← get) then
      let semicolon ← Parser.operator ";"
      return first ++ semicolon ++ (← expressionAt depth true)
    else if (← get).isEmpty then
      return first
    else
      let comma ← Parser.operator ","
      return first ++ comma ++ (← Parser.commaSeparated (expressionAt depth true))

/-- One part of a value that is written with its parts. -/
def partAt : Nat → Parser (List Tree)
  | 0 => failure
  | depth + 1 => do
    let trees ← get
    if sees ".." trees then
      let dots ← Parser.operator ".."
      return dots ++ (← expressionAt depth true)
    else
      let member ←
        match trees with
        | .literal _ :: _ => Parser.literal
        | _ => pure [.word (← Parser.name)]
      if sees ":" (← get) then
        let colon ← Parser.operator ":"
        return member ++ colon ++ (← expressionAt depth true)
      else
        return member

/-- A choice between blocks. -/
def choiceAt : Nat → Parser (List Tree)
  | 0 => failure
  | depth + 1 => do
    let word ← Parser.word "if"
    -- in front of a block, braces after a path are that block
    let condition ← expressionAt depth false
    let block ← blockAt depth
    if seesWord "else" (← get) then
      let other ← Parser.word "else"
      let rest ← if seesWord "if" (← get) then choiceAt depth else blockAt depth
      return word ++ condition ++ block ++ other ++ rest
    else
      return word ++ condition ++ block

/-- A block of statements. -/
def blockAt : Nat → Parser (List Tree)
  | 0 => failure
  | depth + 1 => Parser.group .curly (Parser.toEnd (statementAt depth))

/-- A statement, with the semicolon after it; the last may have none. -/
def statementAt : Nat → Parser (List Tree)
  | 0 => failure
  | depth + 1 => do
    let trees ← get
    if sees ";" trees then
      Parser.operator ";"
    else if seesWord "let" trees then
      let word ← Parser.word "let"
      let mutable ← Parser.word? "mut"
      let bound ← if seesWord "_" (← get) then Parser.someWord else Parser.name
      let type ←
        if sees ":" (← get) then
          let colon ← Parser.operator ":"
          pure (colon ++ (← typeAt depth true).tokens)
        else pure []
      let value ←
        if sees "=" (← get) then
          let equals ← Parser.operator "="
          pure (equals ++ (← expressionAt depth true))
        else pure []
      return word ++ mutable ++ [.word bound] ++ type ++ value ++ (← Parser.operator ";")
    else
      -- After a block no semicolon is needed.
      let isBlock := seesGroup .curly trees || seesAnyWord ["if", "unsafe", "const", "loop"] trees
      let expression ← expressionAt depth true
      let rest ← get
      if sees ";" rest then return expression ++ (← Parser.operator ";")
      guard (rest.isEmpty || isBlock)
      return expression

end

/-! ## Readers of any depth -/

/-- A depth that readers of some trees do not reach: between two trees that it takes, a reader goes
through fewer than sixteen others. -/
def depthOf (trees : List Tree) : Nat := 16 * (Tree.sizes trees + 1)

/-- A path, as it stands in a type. -/
def pathReader : Parser PathForm := fun trees => pathAt (depthOf trees) false trees

/-- One segment of a path, as it stands in a type. -/
def segmentReader : Parser PathForm := fun trees => segmentAt (depthOf trees) false trees

end Introspect.Code
