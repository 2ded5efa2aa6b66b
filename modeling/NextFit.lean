/-
This library models a storage allocator that keeps its free blocks on a circular list in
address order, searches them by next fit and merges them as they are freed.
-/

import NextFit.Heap.Layout
import NextFit.Heap.Report
import NextFit.Proofs.FreeList.Insert
import NextFit.Proofs.FreeList.Take
import NextFit.Proofs.FreeList.History
import NextFit.Proofs.Grower.FixedBuffer
import NextFit.Proofs.Grower.PageHeap
import NextFit.Proofs.Heap.Allocate
import NextFit.Proofs.Heap.Completeness
import NextFit.Proofs.Heap.Failure
import NextFit.Proofs.Heap.Faultless
import NextFit.Proofs.Heap.Frame
import NextFit.Proofs.Heap.LiveBlocks
import NextFit.Proofs.Heap.Partition
import NextFit.Proofs.Heap.Resizing
import NextFit.Proofs.Heap.Restoring
import NextFit.Proofs.Heap.DoubleFree
import NextFit.Proofs.Heap.Twins
import NextFit.Proofs.Heap.Steering
import NextFit.Proofs.Heap.Layouts
import NextFit.Proofs.FreeList.Checking
import NextFit.Proofs.FreeList.Fitting
import NextFit.Proofs.FreeList.Placing
import NextFit.Proofs.FreeList.Refusing
import NextFit.Proofs.Grower.Accounting
import NextFit.Proofs.Heap.Carving
import NextFit.Proofs.Heap.Bumping
import NextFit.Proofs.Heap.Trail
import NextFit.Proofs.Heap.Audit
import NextFit.Proofs.Heap.Trimming
import NextFit.Proofs.Reading
import NextFit.Proofs.Rounding
