import VertexBinding.Emission.Layouts
import VertexBinding.Layout.Definition
import VertexBinding.Proofs.Emission.Concatenation
import VertexBinding.Proofs.Emission.Determination
import VertexBinding.Proofs.Emission.FieldNames
import VertexBinding.Proofs.Layout.Arrangement
import VertexBinding.Proofs.Layout.Bounds
import VertexBinding.Proofs.Layout.Growth
import VertexBinding.Proofs.Layout.RecordedAlignment
import VertexBinding.Proofs.Layout.Registration
import VertexBinding.Proofs.Layout.Renaming
import VertexBinding.Proofs.Layout.Reordering
import VertexBinding.Proofs.Layout.Soundness
import VertexBinding.Proofs.Matching.Additions
import VertexBinding.Proofs.Matching.Argmax
import VertexBinding.Proofs.Naming.Conventions
import VertexBinding.Proofs.Naming.Projection
import VertexBinding.Proofs.Shader.Rendering
import VertexBinding.Proofs.Shader.Stripping
