import Conform.Schema

/-
  Induction over schemas. A schema is a tree through lists
  and options of schemas, so the case of each shape has the
  statement for every node directly below it.

  Main declarations:
    * `Schema.induct`
-/

namespace Conform

namespace Schema

/-
  A statement holds of every schema if it holds of a node of
  each shape whose children it holds of. The child of a lazy
  node counts only if it is known.
-/
@[elab_as_elim, induction_eliminator]
theorem induct
    {motive : Schema → Prop}
    (leaf : ∀ settings kind,
      motive (.node settings (.leaf kind)))
    (object : ∀ settings properties,
      (∀ p ∈ properties, motive p.2) →
        motive (.node settings (.object properties)))
    (array : ∀ settings items minLength maxLength,
      (∀ item, items = some item → motive item) →
        motive (.node settings
          (.array items minLength maxLength)))
    (tuple : ∀ settings elements,
      (∀ s ∈ elements, motive s) →
        motive (.node settings (.tuple elements)))
    (record : ∀ settings keys contents,
      motive keys → motive contents →
        motive (.node settings (.record keys contents)))
    (union : ∀ settings options,
      (∀ s ∈ options, motive s) →
        motive (.node settings (.union options)))
    (nullable : ∀ settings inner,
      motive inner →
        motive (.node settings (.nullable inner)))
    (optional : ∀ settings inner,
      motive inner →
        motive (.node settings (.optional inner)))
    (mapped : ∀ settings mapping inner,
      motive inner →
        motive (.node settings (.mapped mapping inner)))
    (known : ∀ settings child property,
      motive child →
        motive (.node settings (.lazy (.known child) property)))
    (named : ∀ settings name property,
      motive (.node settings (.lazy (.named name) property)))
    (s : Schema) :
    motive s := by
  refine @Schema.rec motive
    (fun shape => ∀ settings, motive (.node settings shape))
    (fun child => ∀ settings property,
      motive (.node settings (.lazy child property)))
    (fun properties => ∀ p ∈ properties, motive p.2)
    (fun items => ∀ item, items = some item → motive item)
    (fun schemas => ∀ s ∈ schemas, motive s)
    (fun p => motive p.2)
    ?node ?leaf ?object ?array ?tuple ?record ?union
    ?nullable ?optional ?mapped ?lazy ?known ?named
    ?noProperty ?property ?noItem ?item ?noSchema ?schema
    ?pair s
  case node => exact fun settings _ h => h settings
  case leaf => exact fun kind settings => leaf settings kind
  case object =>
    exact fun properties h settings =>
      object settings properties h
  case array =>
    exact fun items minLength maxLength h settings =>
      array settings items minLength maxLength h
  case tuple =>
    exact fun elements h settings => tuple settings elements h
  case record =>
    exact fun keys contents hKeys hContents settings =>
      record settings keys contents hKeys hContents
  case union =>
    exact fun options h settings => union settings options h
  case nullable =>
    exact fun inner h settings => nullable settings inner h
  case optional =>
    exact fun inner h settings => optional settings inner h
  case mapped =>
    exact fun mapping inner h settings =>
      mapped settings mapping inner h
  case lazy =>
    exact fun _ property h settings => h settings property
  case known =>
    exact fun child h settings property =>
      known settings child property h
  case named =>
    exact fun name settings property =>
      named settings name property
  case noProperty =>
    exact fun p hp => absurd hp List.not_mem_nil
  case property =>
    exact fun _ _ hHead hTail p hp =>
      (List.mem_cons.mp hp).elim (fun h => h ▸ hHead) (hTail p)
  case noItem => exact fun _ h => nomatch h
  case item =>
    exact fun _ h _ hItem => Option.some.inj hItem ▸ h
  case noSchema =>
    exact fun s hs => absurd hs List.not_mem_nil
  case schema =>
    exact fun _ _ hHead hTail s hs =>
      (List.mem_cons.mp hs).elim (fun h => h ▸ hHead) (hTail s)
  case pair => exact fun _ _ h => h

end Schema

end Conform
