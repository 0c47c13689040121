/-!
# Schema files

The text of every file the database schema is built from, byte for byte: the extensions,
one file per table and one per view, and the top-level file that includes the others in
order with `\ir` lines.

* `Schema.includable`: the files an `\ir` line may name, by relative path.
* `Schema.initFile`: the top-level file.
-/

namespace Catalog

namespace Schema

/-- The extensions the schema needs. -/
def extensions : String :=
  "CREATE EXTENSION IF NOT EXISTS pg_trgm;\n"

/-- The `namespaces` table and its indexes. -/
def namespacesTable : String :=
  "CREATE TABLE IF NOT EXISTS namespaces (\n\tuuid uuid PRIMARY KEY,\n\tname text NOT NULL UNIQUE,\n\tdescription text NULL,\n\tcreated_at timestamptz NOT NULL DEFAULT now(),\n\tupdated_at timestamptz NOT NULL DEFAULT now()\n);\n"

/-- The `tags` table and its indexes. -/
def tagsTable : String :=
  "CREATE TABLE IF NOT EXISTS tags (\n\tuuid uuid PRIMARY KEY,\n\tname text NOT NULL UNIQUE,\n\tdescription text NULL,\n\tcreated_at timestamptz NOT NULL DEFAULT now(),\n\tupdated_at timestamptz NOT NULL DEFAULT now()\n);\n"

/-- The `datasets` table and its indexes. -/
def datasetsTable : String :=
  "CREATE TABLE IF NOT EXISTS datasets (\n\tuuid uuid PRIMARY KEY,\n\ttype text NOT NULL,\n\tcreated_at timestamptz NOT NULL DEFAULT now(),\n\tupdated_at timestamptz NOT NULL DEFAULT now(),\n\tnamespace_name text NOT NULL,\n\tsource_name text NOT NULL,\n\tname text NOT NULL,\n\tphysical_name text NOT NULL,\n\tdescription text NULL,\n\tcurrent_version_uuid uuid NULL,\n\tlast_modified_at timestamptz NULL,\n\tis_deleted boolean NOT NULL DEFAULT false,\n\tUNIQUE (namespace_name, name)\n);\n\nCREATE INDEX IF NOT EXISTS idx_datasets_name_trgm ON datasets USING gin (name gin_trgm_ops);\nCREATE INDEX IF NOT EXISTS idx_datasets_updated_at ON datasets (updated_at DESC);\n"

/-- The `dataset_versions` table and its indexes. -/
def datasetVersionsTable : String :=
  "CREATE TABLE IF NOT EXISTS dataset_versions (\n\tuuid uuid PRIMARY KEY,\n\tcreated_at timestamptz NOT NULL DEFAULT now(),\n\tdataset_uuid uuid NOT NULL REFERENCES datasets(uuid) ON DELETE CASCADE,\n\tversion uuid NOT NULL,\n\trun_uuid uuid NULL,\n\tlifecycle_state text NULL,\n\tfields jsonb NULL\n);\n\nCREATE INDEX IF NOT EXISTS idx_dataset_versions_dataset ON dataset_versions (dataset_uuid, created_at DESC);\n"

/-- The `dataset_facets` table and its indexes. -/
def datasetFacetsTable : String :=
  "CREATE TABLE IF NOT EXISTS dataset_facets (\n\tseq bigint GENERATED ALWAYS AS IDENTITY PRIMARY KEY,\n\tcreated_at timestamptz NOT NULL,\n\tdataset_uuid uuid NOT NULL REFERENCES datasets(uuid) ON DELETE CASCADE,\n\tdataset_version_uuid uuid NOT NULL,\n\trun_uuid uuid NULL,\n\tlineage_event_time timestamptz NOT NULL,\n\tlineage_event_type text NULL,\n\ttype text NOT NULL CHECK (type IN ('DATASET', 'INPUT', 'OUTPUT', 'UNKNOWN')),\n\tname text NOT NULL,\n\tfacet jsonb NOT NULL\n);\n\nCREATE INDEX IF NOT EXISTS idx_dataset_facets_version_name\n\tON dataset_facets (dataset_version_uuid, name, created_at DESC);\nCREATE INDEX IF NOT EXISTS idx_dataset_facets_dataset ON dataset_facets (dataset_uuid, name);\n"

/-- The `jobs` table and its indexes. -/
def jobsTable : String :=
  "CREATE TABLE IF NOT EXISTS jobs (\n\tuuid uuid PRIMARY KEY,\n\ttype text NOT NULL,\n\tcreated_at timestamptz NOT NULL DEFAULT now(),\n\tupdated_at timestamptz NOT NULL DEFAULT now(),\n\tnamespace_name text NOT NULL,\n\tname text NOT NULL,\n\tsimple_name text NOT NULL,\n\tparent_job_uuid uuid NULL REFERENCES jobs(uuid),\n\tdescription text NULL,\n\tcurrent_version_uuid uuid NULL,\n\tcurrent_location text NULL,\n\tsymlink_target_uuid uuid NULL REFERENCES jobs(uuid),\n\tUNIQUE (namespace_name, name)\n);\n\nCREATE INDEX IF NOT EXISTS idx_jobs_name_trgm ON jobs USING gin (name gin_trgm_ops);\nCREATE INDEX IF NOT EXISTS idx_jobs_updated_at ON jobs (updated_at DESC);\n"

/-- The `job_versions` table and its indexes. -/
def jobVersionsTable : String :=
  "CREATE TABLE IF NOT EXISTS job_versions (\n\tuuid uuid PRIMARY KEY,\n\tcreated_at timestamptz NOT NULL DEFAULT now(),\n\tupdated_at timestamptz NOT NULL DEFAULT now(),\n\tjob_uuid uuid NOT NULL REFERENCES jobs(uuid) ON DELETE CASCADE,\n\tversion uuid NOT NULL,\n\tlocation text NULL,\n\tnamespace_name text NOT NULL,\n\tjob_name text NOT NULL,\n\tlatest_run_uuid uuid NULL\n);\n\nCREATE INDEX IF NOT EXISTS idx_job_versions_job ON job_versions (job_uuid, created_at DESC);\n"

/-- The `job_facets` table and its indexes. -/
def jobFacetsTable : String :=
  "CREATE TABLE IF NOT EXISTS job_facets (\n\tseq bigint GENERATED ALWAYS AS IDENTITY PRIMARY KEY,\n\tcreated_at timestamptz NOT NULL,\n\tjob_uuid uuid NOT NULL REFERENCES jobs(uuid) ON DELETE CASCADE,\n\trun_uuid uuid NULL,\n\tlineage_event_time timestamptz NOT NULL,\n\tlineage_event_type text NULL,\n\tname text NOT NULL,\n\tfacet jsonb NOT NULL\n);\n\nCREATE INDEX IF NOT EXISTS idx_job_facets_run ON job_facets (run_uuid, lineage_event_time);\n"

/-- The `datasets_tag_mapping` table and its indexes. -/
def datasetsTagMappingTable : String :=
  "CREATE TABLE IF NOT EXISTS datasets_tag_mapping (\n\tdataset_uuid uuid NOT NULL REFERENCES datasets(uuid) ON DELETE CASCADE,\n\ttag_uuid uuid NOT NULL REFERENCES tags(uuid) ON DELETE CASCADE,\n\ttagged_at timestamptz NOT NULL DEFAULT now(),\n\tPRIMARY KEY (dataset_uuid, tag_uuid)\n);\n"

/-- The `jobs_tag_mapping` table and its indexes. -/
def jobsTagMappingTable : String :=
  "CREATE TABLE IF NOT EXISTS jobs_tag_mapping (\n\tjob_uuid uuid NOT NULL REFERENCES jobs(uuid) ON DELETE CASCADE,\n\ttag_uuid uuid NOT NULL REFERENCES tags(uuid) ON DELETE CASCADE,\n\ttagged_at timestamptz NOT NULL DEFAULT now(),\n\tPRIMARY KEY (job_uuid, tag_uuid)\n);\n"

/-- The `job_versions_io_mapping` table and its indexes. -/
def jobVersionsIoMappingTable : String :=
  "CREATE TABLE IF NOT EXISTS job_versions_io_mapping (\n\tjob_version_uuid uuid NOT NULL REFERENCES job_versions(uuid) ON DELETE CASCADE,\n\tdataset_uuid uuid NOT NULL REFERENCES datasets(uuid) ON DELETE CASCADE,\n\tio_type text NOT NULL CHECK (io_type IN ('INPUT', 'OUTPUT')),\n\tjob_uuid uuid NOT NULL REFERENCES jobs(uuid) ON DELETE CASCADE,\n\tis_current_job_version boolean NOT NULL DEFAULT true,\n\tPRIMARY KEY (job_version_uuid, dataset_uuid, io_type)\n);\n\nCREATE INDEX IF NOT EXISTS idx_job_versions_io_mapping_dataset\n\tON job_versions_io_mapping (dataset_uuid)\n\tWHERE is_current_job_version;\n"

/-- The `datasets_view` view. -/
def datasetsView : String :=
  "CREATE OR REPLACE VIEW datasets_view AS\nSELECT\n\td.uuid,\n\td.type,\n\td.created_at,\n\td.updated_at,\n\td.namespace_name,\n\td.source_name,\n\td.name,\n\td.physical_name,\n\td.description,\n\td.current_version_uuid,\n\td.last_modified_at,\n\td.is_deleted\nFROM datasets AS d;\n"

/-- The `jobs_view` view. -/
def jobsView : String :=
  "CREATE OR REPLACE VIEW jobs_view AS\nSELECT\n\tj.uuid,\n\tj.type,\n\tj.created_at,\n\tj.updated_at,\n\tj.namespace_name,\n\tj.name,\n\tj.simple_name,\n\tj.parent_job_uuid,\n\tp.name AS parent_job_name,\n\tj.description,\n\tj.current_version_uuid,\n\tj.current_location,\n\tj.symlink_target_uuid\nFROM jobs AS j\nLEFT JOIN jobs AS p ON p.uuid = j.parent_job_uuid;\n"

/-- The top-level file, which includes the others. -/
def initFile : String :=
  "\\ir 00_extensions.sql\n\\ir tables/001_namespaces.sql\n\\ir tables/002_tags.sql\n\\ir tables/003_datasets.sql\n\\ir tables/004_dataset_versions.sql\n\\ir tables/005_dataset_facets.sql\n\\ir tables/006_jobs.sql\n\\ir tables/007_job_versions.sql\n\\ir tables/008_job_facets.sql\n\\ir tables/009_datasets_tag_mapping.sql\n\\ir tables/010_jobs_tag_mapping.sql\n\\ir tables/011_job_versions_io_mapping.sql\n\\ir views/001_datasets_view.sql\n\\ir views/002_jobs_view.sql\n"

/-- **The files an include line may name**, by path relative to the top-level file. -/
def includable : List (String × String) :=
  [("00_extensions.sql", extensions),
    ("tables/001_namespaces.sql", namespacesTable),
    ("tables/002_tags.sql", tagsTable),
    ("tables/003_datasets.sql", datasetsTable),
    ("tables/004_dataset_versions.sql", datasetVersionsTable),
    ("tables/005_dataset_facets.sql", datasetFacetsTable),
    ("tables/006_jobs.sql", jobsTable),
    ("tables/007_job_versions.sql", jobVersionsTable),
    ("tables/008_job_facets.sql", jobFacetsTable),
    ("tables/009_datasets_tag_mapping.sql", datasetsTagMappingTable),
    ("tables/010_jobs_tag_mapping.sql", jobsTagMappingTable),
    ("tables/011_job_versions_io_mapping.sql", jobVersionsIoMappingTable),
    ("views/001_datasets_view.sql", datasetsView),
    ("views/002_jobs_view.sql", jobsView)]

end Schema

end Catalog
